import ShardedIndex.Audit.Ledger
import ShardedIndex.Workload.Basic

/-!
# Audited workloads

A workload together with the ledger of the works of it that were confirmed.
-/

namespace ShardedIndex

structure AuditedWorkload (σ : Type) where
  workload : Workload σ
  ledger : Ledger

namespace AuditedWorkload

variable {σ : Type} [RandomSource σ]

/-- A workload with nothing confirmed yet. -/
def create (total : UInt64) (pctAdd pctUpdate : UInt32) (source : σ) :
    Except Fault (AuditedWorkload σ) :=
  (Workload.create total pctAdd pctUpdate source).map (⟨·, .empty⟩)

/-- A workload over the word stream of a seed. -/
def seeded (total : UInt64) (pctAdd pctUpdate : UInt32) (seed : UInt64) :
    Except Fault (AuditedWorkload WordSource) :=
  create total pctAdd pctUpdate (.ofSeed seed)

/-- The next work to send to the engine; nothing once the workload is exhausted. -/
def next? (a : AuditedWorkload σ) : Option (Work × AuditedWorkload σ) :=
  match a.workload.next? with
  | some (w, workload) => some (w, { a with workload })
  | none               => none

/-- Record a work that the engine confirmed. -/
def confirm (a : AuditedWorkload σ) (w : Work) : AuditedWorkload σ :=
  { a with ledger := a.ledger.record w }

/-- Up to `n` times take the next work and confirm it at once. -/
def run : Nat → AuditedWorkload σ → Nat × AuditedWorkload σ
  | 0, a     => (0, a)
  | n + 1, a =>
    match a.next? with
    | none        => (0, a)
    | some (w, a) =>
      let (count, a) := run n (a.confirm w)
      (count + 1, a)

end AuditedWorkload

end ShardedIndex
