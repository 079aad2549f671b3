import ShardedIndex.Fault
import ShardedIndex.Random.Sampling
import ShardedIndex.Work.Basic

/-!
# Workloads

A workload is a random sequence of works that spends given quotas: a total divided by percentages,
rounded down, where the deletes get what rounding leaves. Each step chooses among the kinds that may
come next: a kind needs quota left, and an update or delete also an id that was added before. Ids
are numbered from one and stay in the pool after a delete, so every quota can be spent whatever the
proportions are.
-/

namespace ShardedIndex

/-! ### Quotas -/

/-- A number of works of each kind. -/
structure Quotas where
  add : UInt64
  update : UInt64
  delete : UInt64
  deriving DecidableEq, Repr

namespace Quotas

/-- A percentage of a total, rounded down. The product is taken without a bound. -/
def share (total : UInt64) (percent : UInt32) : UInt64 :=
  UInt64.ofNat (total.toNat * percent.toNat / 100)

/-- Divide a total by the percentages of adds and updates. -/
def ofPercentages (total : UInt64) (pctAdd pctUpdate : UInt32) : Quotas where
  add := share total pctAdd
  update := share total pctUpdate
  delete := total - share total pctAdd - share total pctUpdate

def total (q : Quotas) : UInt64 := q.add + q.update + q.delete

def get (q : Quotas) : WorkKind → UInt64
  | .add    => q.add
  | .update => q.update
  | .delete => q.delete

/-- One work less of a kind. -/
def spend (q : Quotas) : WorkKind → Quotas
  | .add    => { q with add := q.add - 1 }
  | .update => { q with update := q.update - 1 }
  | .delete => { q with delete := q.delete - 1 }

theorem get_spend (q : Quotas) (spent kind : WorkKind) :
    (q.spend spent).get kind = if spent = kind then q.get kind - 1 else q.get kind := by
  cases spent <;> cases kind <;> rfl

end Quotas

/-! ### Works in random order -/

variable {σ : Type} [RandomSource σ]

/-- A quote with one of the given texts, chosen at random. -/
def Quote.draw (id : DocumentId) (source : σ) : Quote × σ :=
  let (i, source) := RandomSource.index .narrow 10 (by decide) source
  (⟨id, Quote.texts[i]⟩, source)

/-- The rest of a random sequence of works: what is still to come of each kind, the ids added so
far, oldest first, and the id of the next add. -/
structure Workload (σ : Type) where
  source : σ
  quotas : Quotas
  pool : Array DocumentId
  nextId : DocumentId

namespace Workload

/-- A workload of `total` works. It has to hold at least one add. -/
def create (total : UInt64) (pctAdd pctUpdate : UInt32) (source : σ) :
    Except Fault (Workload σ) :=
  let quotas := Quotas.ofPercentages total pctAdd pctUpdate
  if pctAdd.toNat + pctUpdate.toNat > 100 then .error (.ratioAboveHundred pctAdd pctUpdate)
  else if pctAdd = 0 then .error .noAddShare
  else if quotas.add = 0 then .error (.addsRoundToZero total pctAdd)
  else .ok ⟨source, quotas, #[], 1⟩

def size (l : Workload σ) : UInt64 := l.quotas.total

def mayEmit (l : Workload σ) (kind : WorkKind) : Bool :=
  0 < l.quotas.get kind && (!kind.needsTarget || 0 < l.pool.size)

def choices (l : Workload σ) : List WorkKind := WorkKind.all.filter l.mayEmit

/-- An id of the pool, chosen at random; nothing is drawn from an empty pool. -/
def pooledId (l : Workload σ) (source : σ) : DocumentId × σ :=
  if pos : 0 < l.pool.size then
    let (i, source) := RandomSource.index .wide l.pool.size pos source
    (l.pool[i], source)
  else (0, source)

/-- The next work, of a given kind. An add takes the next number and puts it in the pool. -/
def emit (l : Workload σ) (kind : WorkKind) (source : σ) : Work × Workload σ :=
  let quotas := l.quotas.spend kind
  if kind.needsTarget then
    let (id, source) := l.pooledId source
    let (quote, source) := Quote.draw id source
    (.of kind quote, ⟨source, quotas, l.pool, l.nextId⟩)
  else
    let (quote, source) := Quote.draw l.nextId source
    (.of kind quote, ⟨source, quotas, l.pool.push l.nextId, l.nextId + 1⟩)

/-- The next work and the workload after it; nothing when no kind may come next. -/
def next? (l : Workload σ) : Option (Work × Workload σ) :=
  if pos : 0 < l.choices.length then
    let (i, source) := RandomSource.index .wide l.choices.length pos l.source
    some (l.emit l.choices[i] source)
  else none

/-- Append up to `n` further works to `works`. -/
def takeInto (works : Array Work) : Nat → Workload σ → Array Work × Workload σ
  | 0, l     => (works, l)
  | n + 1, l =>
    match l.next? with
    | none        => (works, l)
    | some (w, l) => takeInto (works.push w) n l

/-- Up to `n` works and the workload after them. -/
def take (n : Nat) (l : Workload σ) : Array Work × Workload σ := takeInto #[] n l

/-- All the works that are still to come. -/
def rest (l : Workload σ) : Array Work × Workload σ := l.take l.size.toNat

end Workload

end ShardedIndex
