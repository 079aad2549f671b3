import ShardedIndex.Load.Run
import ShardedIndex.Trial.Settings

/-!
# Trial

A trial binds one entity type over a number of shards, runs a seeded workload through the binding
and compares the documents with the ledger. It is told as a log of events, and its exit code is 0
for a consistent result, 2 for a divergence and 1 for a fault.

Memory has no bound, neither for the shards nor for the writers, and every writer gets its thread: a
trial never breaks off because it asks for too much of them.
-/

namespace ShardedIndex

/-! ### Events -/

inductive Level
  | info
  | error
  deriving DecidableEq, Repr

def Level.label : Level → String
  | info  => "INFO"
  | error => "ERROR"

/-- What a field of an event holds. -/
inductive Datum
  | text (value : String)
  | count (value : Nat)
  deriving DecidableEq, Repr

/-- An entry of the log. -/
structure Event where
  level : Level
  message : String
  fields : List (String × Datum)
  deriving DecidableEq, Repr

/-! ### Trials -/

namespace Trial

/-- The entity type of a trial, which is also the name of its index. -/
def entity : String := "Quote"

/-- The properties of the index: its number of shards, and storage in memory. -/
def properties (shards : UInt64) : Properties :=
  .ofList
    [(Key.join entity Key.nestedShardCount, Text.decimal shards.toNat),
      (Key.join entity Key.directoryProvider, IndexFactory.memoryProvider)]

/-- What a trial leaves: its log, and its result or the fault that ended it. -/
structure Outcome where
  events : List Event
  result : Except Fault LoadResult

/-- The events of binding, one for each index and one for the binding. -/
def bindingEvents (b : Binding) (store : Store) : List Event :=
  (store.indexes.toList.map fun x =>
    ⟨.info, "Index manager created", [("index", .text x.name), ("entity", .text b.entity)]⟩) ++
  [⟨.info, "Entity bound to index managers",
    [("entity", .text b.entity), ("strategy", .text b.strategy),
      ("shards", .count b.indexes.size)]⟩]

/-- The event of a load run that came to an end. -/
def loadEvent (b : Binding) (writers : Nat) (r : LoadResult) : Event :=
  ⟨.info, "Load run finished",
    [("entity", .text b.entity), ("applied", .count r.applied), ("writers", .count writers),
      ("expected", .count r.consistency.expected), ("observed", .count r.consistency.observed)]⟩

/-- Bind the entity type to new indexes in memory. -/
def bind (c : TrialSettings) : Except Fault (Binding × Store) :=
  match c.validate with
  | .error fault => .error fault
  | .ok ()       =>
    match Layout.ofProperties entity (properties c.shards) with
    | .error fault => .error fault
    | .ok layout   =>
      match layout.bind entity none .memory .empty with
      | (.error fault, _) => .error fault
      | (.ok b, registry) => .ok (b, registry.store)

/-- A way to carry out a load. -/
abbrev Conduct := Binding → Load WordSource → Load WordSource

/-- Run the workload through a binding. -/
def load (conduct : Conduct) (c : TrialSettings) (b : Binding) (store : Store) :
    Except Fault LoadResult :=
  match AuditedWorkload.seeded c.totalWorks c.pctAdd c.pctUpdate c.seed with
  | .error fault => .error fault
  | .ok audit    => (conduct b (Load.start audit store c.writers.toNat)).outcome b

/-- Carry out a trial, and its load in a given way. -/
def runBy (conduct : Conduct) (c : TrialSettings) : Outcome :=
  let opening : List Event :=
    [⟨.info, "shardex logging initialized", []⟩,
      ⟨.info, "Starting work log load test", [("config", .text c.summary)]⟩]
  let aborted (fault : Fault) : Event :=
    ⟨.error, "Load test aborted", [("error", .text fault.text)]⟩
  match bind c with
  | .error fault   => ⟨opening ++ [aborted fault], .error fault⟩
  | .ok (b, store) =>
    let events := opening ++ bindingEvents b store
    match load conduct c b store with
    | .error fault => ⟨events ++ [aborted fault], .error fault⟩
    | .ok report   => ⟨events ++ [loadEvent b c.writers.toNat report], .ok report⟩

/-- Carry out a trial, one writer after the other. -/
def run (c : TrialSettings) : Outcome := runBy Load.runInOrder c

/-- The exit code of a trial. -/
def exitCode (o : Outcome) : UInt32 :=
  match o.result with
  | .error _   => 1
  | .ok report => if report.consistency.agrees then 0 else 2

/-- The lines of the result, with lines about its timing in between. -/
def lines (o : Outcome) (timing : List String) : List String :=
  match o.result with
  | .error _   => []
  | .ok report =>
    ["=== Work Log Load Test ===", s!"  Works applied: {report.applied}"] ++ timing ++
      [s!"  Result: {report.consistency.text}"]

end Trial

end ShardedIndex
