import ShardedIndex.Load.Machine

/-!
# Load run

One schedule of a load, the one that is carried out here: every work is handed over first, then the
writers work off what they got, one writer after the other. The result counts the confirmed works
and compares the ledger with the documents; a writer that failed makes the run fail. How long a run
takes is not part of its result: `rate` is told the time.
-/

namespace ShardedIndex

variable {σ : Type} [RandomSource σ]

structure LoadResult where
  applied : Nat
  consistency : Consistency
  deriving DecidableEq, Repr

namespace Load

/-- How many works the writers confirmed. -/
def confirmedCount (l : Load σ) : Nat := l.writers.foldl (fun n writer => n + writer.confirmed) 0

/-- The fault of the first writer, in their order, that failed. -/
def fault? (l : Load σ) : Option Fault := l.writers.toList.findSome? (·.stage.fault?)

/-- The outcome of a load that has finished. -/
def outcome (b : Binding) (l : Load σ) : Except Fault LoadResult :=
  match l.fault? with
  | some fault => .error fault
  | none       => .ok ⟨l.confirmedCount, l.audit.ledger.check (b.documentCount l.store)⟩

def dispatchMany : Nat → Load σ → Load σ
  | 0, l     => l
  | n + 1, l => dispatchMany n l.dispatch

/-- Let a writer take, apply and confirm a work, `n` times. -/
def drain (b : Binding) (i : Nat) : Nat → Load σ → Load σ
  | 0, l     => l
  | n + 1, l => drain b i n (((l.take i).apply b i).confirm i)

/-- Let a writer work off what it got. -/
def drainAll (b : Binding) (l : Load σ) (i : Nat) : Load σ :=
  l.drain b i (((l.writers[i]?).map (·.inbox.size)).getD 0)

/-- Carry out a load. The dispatcher finds out that there is nothing left one dispatch after the
last work. -/
def runInOrder (b : Binding) (l : Load σ) : Load σ :=
  let l := l.dispatchMany (l.audit.workload.size.toNat + 1)
  (List.range l.writers.size).foldl (drainAll b) l

end Load

/-! ### Rate -/

/-- A length of time: seconds, and nanoseconds below a second. -/
structure Elapsed where
  seconds : UInt64
  nanos : UInt32
  deriving DecidableEq, Repr

/-- The length of time in seconds. -/
def Elapsed.toFloat (e : Elapsed) : Float := e.seconds.toFloat + e.nanos.toFloat / 1e9

/-- Works per second; the number of works itself when no time has passed. -/
def rate (applied : UInt64) (e : Elapsed) : Float :=
  if e.toFloat == 0 then applied.toFloat else applied.toFloat / e.toFloat

end ShardedIndex
