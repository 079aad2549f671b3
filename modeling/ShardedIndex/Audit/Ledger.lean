import Std.Data.HashSet
import ShardedIndex.Work.Basic

/-!
# Ledger

The record of the works that an engine has confirmed. Its replay tells how many documents the engine
should hold, without any index: only the ids that are present matter.
-/

namespace ShardedIndex

/-! ### Replay -/

/-- A kind and the id that a work of it names. -/
abbrev Entry := WorkKind × DocumentId

def Work.entry (w : Work) : Entry := (w.kind, w.id)

/-- The ids present after one more work. -/
def present (ids : Std.HashSet DocumentId) : Entry → Std.HashSet DocumentId
  | (.add, id)    => ids.insert id
  | (.update, id) => ids.insert id
  | (.delete, id) => ids.erase id

/-- The number of documents after works on an empty index. -/
def replay (entries : List Entry) : Nat := (entries.foldl present ∅).size

/-! ### Consistency -/

/-- The number of documents that a ledger expects beside the number that an engine reports. -/
structure Consistency where
  expected : Nat
  observed : Nat
  deriving DecidableEq, Repr

namespace Consistency

def agrees (c : Consistency) : Bool := c.expected = c.observed

def text (c : Consistency) : String :=
  if c.agrees then s!"consistent ({c.expected} documents)"
  else s!"diverged: expected {c.expected} documents, engine reports {c.observed}"

end Consistency

/-! ### Ledger -/

/-- The confirmed works in order of confirmation, and the ids that an add was ever confirmed for. -/
structure Ledger where
  works : Array Work
  known : Std.HashSet DocumentId

namespace Ledger

def empty : Ledger := ⟨#[], ∅⟩

/-- The first half of a record: the work is appended. -/
def append (l : Ledger) (w : Work) : Ledger := { l with works := l.works.push w }

/-- The second half of a record: the id of an add becomes known. -/
def learn (l : Ledger) (w : Work) : Ledger :=
  if w.kind = .add then { l with known := l.known.insert w.id } else l

def record (l : Ledger) (w : Work) : Ledger := (l.append w).learn w

/-- How many documents there should be after the recorded works. -/
def replayedSize (l : Ledger) : Nat := replay (l.works.toList.map Work.entry)

/-- Compare a reported number of documents with the expected one. -/
def check (l : Ledger) (observed : Nat) : Consistency := ⟨l.replayedSize, observed⟩

/-- Whether an add of this id was ever recorded. A delete does not make an id unknown. -/
def knows (l : Ledger) (id : DocumentId) : Bool := l.known.contains id

@[simp] theorem works_append (l : Ledger) (w : Work) : (l.append w).works = l.works.push w := rfl

@[simp] theorem known_append (l : Ledger) (w : Work) : (l.append w).known = l.known := rfl

@[simp] theorem works_learn (l : Ledger) (w : Work) : (l.learn w).works = l.works := by
  unfold learn
  split <;> rfl

theorem known_learn (l : Ledger) (w : Work) :
    (l.learn w).known = if w.kind = .add then l.known.insert w.id else l.known := by
  rw [learn, apply_ite known]

@[simp] theorem works_record (l : Ledger) (w : Work) : (l.record w).works = l.works.push w := by
  simp [record]

end Ledger

end ShardedIndex
