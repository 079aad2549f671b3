import ShardedIndex.Audit.Ledger

/-!
# Shared ledgers

Any number of calls record works in one ledger while others read it. The log and the known ids are
guarded by different locks, so a call is taken apart into the two halves of `Ledger.record`, and
anything may happen in between. A reader copies the log and replays the copy on its own. A schedule
is a list of steps in any order; a step that is not possible changes nothing.
-/

namespace ShardedIndex

/-! ### Calls -/

/-- A call that records a work. -/
inductive Recording
  /-- Both halves are still to come. -/
  | due (w : Work)
  /-- The work is in the log, its id is still to be registered. -/
  | between (w : Work)
  | done (w : Work)

namespace Recording

def work : Recording → Work
  | due w     => w
  | between w => w
  | done w    => w

/-- The call that has appended its work. Only an add has an id to register. -/
def appended (w : Work) : Recording := if w.kind = .add then between w else done w

end Recording

/-- A ledger, the calls on it, and the copies of its log that readers took, oldest first. -/
structure SharedLedger where
  ledger : Ledger
  calls : Array Recording
  copies : Array (List Entry)

/-! ### Steps -/

namespace SharedLedger

inductive Action
  | append (call : Nat)
  | learn (call : Nat)
  /-- A reader copies the log. -/
  | copy

/-- An empty ledger, and a call for each work that has not taken a step. -/
def start (works : Array Work) : SharedLedger := ⟨.empty, works.map .due, #[]⟩

/-- Put a call in the place of another one. -/
def put (s : SharedLedger) (i : Nat) (call : Recording) : SharedLedger :=
  { s with calls := s.calls.setIfInBounds i call }

def append (s : SharedLedger) (i : Nat) : SharedLedger :=
  match s.calls[i]? with
  | some (.due w) => { s with ledger := s.ledger.append w }.put i (.appended w)
  | _             => s

def learn (s : SharedLedger) (i : Nat) : SharedLedger :=
  match s.calls[i]? with
  | some (.between w) => { s with ledger := s.ledger.learn w }.put i (.done w)
  | _                 => s

/-- The entries of the log. -/
def entries (s : SharedLedger) : List Entry := s.ledger.works.toList.map Work.entry

def copy (s : SharedLedger) : SharedLedger := { s with copies := s.copies.push s.entries }

def step (s : SharedLedger) : Action → SharedLedger
  | .append i => s.append i
  | .learn i  => s.learn i
  | .copy     => s.copy

def run (s : SharedLedger) (schedule : List Action) : SharedLedger := schedule.foldl step s

end SharedLedger

end ShardedIndex
