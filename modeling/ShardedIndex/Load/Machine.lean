import ShardedIndex.Audit.Workload
import ShardedIndex.Binding.Basic

/-!
# Concurrent load

A dispatcher hands the works of an audited workload to writers, and the writers apply them to a
binding and confirm them to the ledger. The writer of a work follows from the key of its document,
so that the works on one document stay in order; works on different documents interleave freely.

The parts are taken apart into actions, none of which another one can interrupt. A schedule is a
list of actions; an action that is not possible changes nothing.

Memory has no bound here, and a thread can be started for every writer that is asked for. What
becomes of a load that runs out of either, as it would with nearly 2^64 writers, is left open.
-/

namespace ShardedIndex

/-! ### States -/

inductive Stage
  /-- Waiting for the next work. -/
  | idle
  /-- Holding a work that is not applied yet. -/
  | holding (w : Work)
  /-- Holding a work that is applied but not confirmed yet. -/
  | applied (w : Work)
  /-- Stopped by a fault, while works can still be handed over. -/
  | failed (fault : Fault)
  /-- Stopped by a fault, and closed to further works. -/
  | closed (fault : Fault)
  deriving DecidableEq, Repr

/-- The fault that stopped a writer, if one did. -/
def Stage.fault? : Stage → Option Fault
  | failed fault => some fault
  | closed fault => some fault
  | _            => none

/-- A writer: the works handed to it so far in order, how many of them it took, what it is doing,
and how many works it confirmed. -/
structure Writer where
  inbox : Array Work
  taken : Nat
  stage : Stage
  confirmed : Nat
  deriving DecidableEq, Repr

def Writer.fresh : Writer := ⟨#[], 0, .idle, 0⟩

structure Load (σ : Type) where
  audit : AuditedWorkload σ
  store : Store
  writers : Array Writer
  dispatching : Bool

/-! ### Actions -/

inductive Action
  /-- The dispatcher hands over the next work. It stops when there is none, or when the writer of
  the work is closed. -/
  | dispatch
  | take (writer : Nat)
  | apply (writer : Nat)
  /-- A writer that holds a work fails for a reason of its own; the indexes stay as they are. -/
  | fail (writer : Nat) (fault : Fault)
  /-- A writer confirms the work it applied. -/
  | confirm (writer : Nat)
  /-- A writer that failed closes. -/
  | close (writer : Nat)
  deriving DecidableEq, Repr

namespace Load

variable {σ : Type} [RandomSource σ]

/-- A load that starts with a number of writers, but at least one. -/
def start (audit : AuditedWorkload σ) (store : Store) (writers : Nat) : Load σ :=
  ⟨audit, store, Array.replicate (max writers 1) .fresh, true⟩

def writerOf (l : Load σ) (w : Work) : Nat := Routing.ordinal w.key l.writers.size

/-- What a writer is doing; a writer that does not exist is idle. -/
def stageOf (l : Load σ) (i : Nat) : Stage := ((l.writers[i]?).map (·.stage)).getD .idle

def setStage (l : Load σ) (i : Nat) (stage : Stage) : Load σ :=
  { l with writers := l.writers.modify i fun writer => { writer with stage } }

def dispatch (l : Load σ) : Load σ :=
  if l.dispatching then
    match l.audit.next? with
    | none            => { l with dispatching := false }
    | some (w, audit) =>
      let i := l.writerOf w
      match l.stageOf i with
      | .closed _ => { l with audit, dispatching := false }
      | _         =>
        let writers := l.writers.modify i fun writer => { writer with inbox := writer.inbox.push w }
        { l with audit, writers }
  else l

def take (l : Load σ) (i : Nat) : Load σ :=
  { l with writers := l.writers.modify i fun writer =>
      match writer.stage, writer.inbox[writer.taken]? with
      | .idle, some w => { writer with taken := writer.taken + 1, stage := .holding w }
      | _, _          => writer }

def apply (b : Binding) (l : Load σ) (i : Nat) : Load σ :=
  match l.stageOf i with
  | .holding w =>
    match b.apply w l.store with
    | (.ok _, store)        => { l with store }.setStage i (.applied w)
    | (.error fault, store) => { l with store }.setStage i (.failed fault)
  | _          => l

def fail (l : Load σ) (i : Nat) (fault : Fault) : Load σ :=
  match l.stageOf i with
  | .holding _ => l.setStage i (.failed fault)
  | _          => l

def confirm (l : Load σ) (i : Nat) : Load σ :=
  match l.stageOf i with
  | .applied w =>
    let writers := l.writers.modify i fun writer =>
      { writer with stage := .idle, confirmed := writer.confirmed + 1 }
    { l with audit := l.audit.confirm w, writers }
  | _          => l

def close (l : Load σ) (i : Nat) : Load σ :=
  match l.stageOf i with
  | .failed fault => l.setStage i (.closed fault)
  | _             => l

/-- Do one action on a binding. -/
def step (b : Binding) (l : Load σ) : Action → Load σ
  | .dispatch     => l.dispatch
  | .take i       => l.take i
  | .apply i      => l.apply b i
  | .fail i fault => l.fail i fault
  | .confirm i    => l.confirm i
  | .close i      => l.close i

def run (b : Binding) (l : Load σ) (schedule : List Action) : Load σ := schedule.foldl (step b) l

/-- Whether a writer has nothing left to do. -/
def hasStopped (l : Load σ) (writer : Writer) : Bool :=
  match writer.stage with
  | .idle     => !l.dispatching && writer.taken = writer.inbox.size
  | .failed _ => true
  | .closed _ => true
  | _         => false

/-- Whether nothing is left to do. -/
def isFinished (l : Load σ) : Bool := !l.dispatching && l.writers.all l.hasStopped

end Load

end ShardedIndex
