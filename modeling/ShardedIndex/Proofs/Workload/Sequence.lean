import Mathlib
import ShardedIndex.Audit.Workload
import ShardedIndex.Proofs.Index.Contents

/-!
# Sequences of a workload

Every work spends one of the quotas, and a workload that was accepted never gets stuck: it comes to
an end when all its quotas are spent, whatever the random source yields. So the works still to come
are a list, and its length is what is left of the quotas.
-/

namespace ShardedIndex

/-! ### Quotas -/

namespace Quotas

variable {q : Quotas} {kind : WorkKind}

/-- How many works are still to come, counted without a bound. -/
def remaining (q : Quotas) : Nat := q.add.toNat + q.update.toNat + q.delete.toNat

lemma remaining_spend (hpos : 0 < q.get kind) : (q.spend kind).remaining + 1 = q.remaining := by
  have hle : (1 : UInt64) ≤ q.get kind := hpos
  have hsub : (q.get kind - 1).toNat = (q.get kind).toNat - 1 := UInt64.toNat_sub_of_le _ _ hle
  have hpos' : 0 < (q.get kind).toNat := hpos
  cases kind <;> simp only [get, spend, remaining] at hsub hpos' ⊢ <;> omega

lemma remaining_pos_iff : 0 < q.remaining ↔ ∃ kind, 0 < q.get kind := by
  simp only [remaining, UInt64.lt_iff_toNat_lt, UInt64.toNat_zero]
  constructor
  · intro hpos
    rcases (by omega : 0 < q.add.toNat ∨ 0 < q.update.toNat ∨ 0 < q.delete.toNat) with h | h | h
    · exact ⟨.add, h⟩
    · exact ⟨.update, h⟩
    · exact ⟨.delete, h⟩
  · rintro ⟨kind, hpos⟩
    cases kind <;> simp only [get] at hpos <;> omega

lemma toNat_total (hlt : q.remaining < 2 ^ 64) : q.total.toNat = q.remaining := by
  simp only [remaining] at hlt ⊢
  simp only [total, UInt64.toNat_add]
  omega

lemma toNat_share (total : UInt64) (percent : UInt32) (hle : percent.toNat ≤ 100) :
    (share total percent).toNat = total.toNat * percent.toNat / 100 := by
  have hlt := total.toNat_lt
  have hmul : total.toNat * percent.toNat ≤ total.toNat * 100 := Nat.mul_le_mul_left _ hle
  rw [share, UInt64.toNat_ofNat_of_lt']
  simp only [UInt64.size]
  omega

/-- The quotas of a workload add up to its total. -/
lemma remaining_ofPercentages (total : UInt64) {pctAdd pctUpdate : UInt32}
    (hle : pctAdd.toNat + pctUpdate.toNat ≤ 100) :
    (ofPercentages total pctAdd pctUpdate).remaining = total.toNat := by
  have hadd := toNat_share total pctAdd (by omega)
  have hupdate := toNat_share total pctUpdate (by omega)
  have hmul : total.toNat * (pctAdd.toNat + pctUpdate.toNat) ≤ total.toNat * 100 :=
    Nat.mul_le_mul_left _ hle
  rw [Nat.mul_add] at hmul
  have hle₁ : share total pctAdd ≤ total := by
    rw [UInt64.le_iff_toNat_le]
    omega
  have hsub₁ := UInt64.toNat_sub_of_le total (share total pctAdd) hle₁
  have hle₂ : share total pctUpdate ≤ total - share total pctAdd := by
    rw [UInt64.le_iff_toNat_le]
    omega
  have hsub₂ := UInt64.toNat_sub_of_le (total - share total pctAdd) (share total pctUpdate) hle₂
  simp only [remaining, ofPercentages]
  omega

end Quotas

/-! ### Steps of a workload -/

namespace Workload

variable {σ : Type} {l l' : Workload σ} {w : Work} {kind : WorkKind} {source : σ}

/-- The first work can be an add, or ids were added before. -/
def Viable (l : Workload σ) : Prop := 0 < l.pool.size ∨ 0 < l.quotas.add

/-- What an accepted workload is like. -/
lemma create_ok {total : UInt64} {pctAdd pctUpdate : UInt32}
    (hok : create total pctAdd pctUpdate source = .ok l) :
    l.quotas.remaining = total.toNat ∧ l.Viable := by
  simp only [create] at hok
  split_ifs at hok with hratio hshare hzero
  cases hok
  refine ⟨Quotas.remaining_ofPercentages total (by omega), .inr ?_⟩
  exact UInt64.pos_iff_ne_zero.2 hzero

variable [RandomSource σ]

lemma next?_eq_none_iff : l.next? = none ↔ ∀ kind, l.mayEmit kind = false := by
  unfold next?
  split
  · next hpos =>
    simp only [reduceCtorEq, false_iff, not_forall, Bool.not_eq_false]
    obtain ⟨kind, hkind⟩ := List.length_pos_iff_exists_mem.1 hpos
    exact ⟨kind, (List.mem_filter.1 hkind).2⟩
  · next hzero =>
    have hnil : l.choices = [] := List.length_eq_zero_iff.1 (by omega)
    simp only [true_iff]
    intro kind
    have hkind := List.filter_eq_nil_iff.1 hnil kind (WorkKind.mem_all kind)
    simpa using hkind

/-- A next work is emitted with a kind that may come next. -/
lemma next?_eq_some (hnext : l.next? = some (w, l')) :
    ∃ kind source, l.mayEmit kind = true ∧ l.emit kind source = (w, l') := by
  unfold next? at hnext
  split at hnext
  · exact ⟨_, _, (List.mem_filter.1 (List.getElem_mem _)).2, Option.some.inj hnext⟩
  · cases hnext

lemma quotas_emit (l : Workload σ) (kind : WorkKind) (source : σ) :
    (l.emit kind source).2.quotas = l.quotas.spend kind := by
  cases kind <;> rfl

lemma pool_emit_pos (hmay : l.mayEmit kind = true) (source : σ) :
    0 < (l.emit kind source).2.pool.size := by
  cases kind with
  | add => simp [emit, WorkKind.needsTarget]
  | _ =>
    simp only [mayEmit, WorkKind.needsTarget, Bool.not_true, Bool.false_or, Bool.and_eq_true,
      decide_eq_true_eq] at hmay
    exact hmay.2

lemma remaining_of_next? (hnext : l.next? = some (w, l')) :
    l'.quotas.remaining + 1 = l.quotas.remaining := by
  obtain ⟨kind, source, hmay, hemit⟩ := next?_eq_some hnext
  have hquotas : l'.quotas = l.quotas.spend kind := by
    rw [← quotas_emit l kind source, hemit]
  rw [hquotas]
  simp only [mayEmit, Bool.and_eq_true, decide_eq_true_eq] at hmay
  exact Quotas.remaining_spend hmay.1

lemma viable_of_next? (hnext : l.next? = some (w, l')) : l'.Viable := by
  obtain ⟨kind, source, hmay, hemit⟩ := next?_eq_some hnext
  have hpool := pool_emit_pos hmay source
  rw [hemit] at hpool
  exact .inl hpool

/-- A viable workload ends only when nothing is left of its quotas. -/
lemma Viable.next?_eq_none_iff (hv : l.Viable) : l.next? = none ↔ l.quotas.remaining = 0 := by
  rw [Workload.next?_eq_none_iff]
  constructor
  · intro hnone
    by_contra hne
    obtain ⟨kind, hpos⟩ := Quotas.remaining_pos_iff.1 (Nat.pos_of_ne_zero hne)
    rcases hv with hpool | hadd
    · have hmay := hnone kind
      simp [mayEmit, hpos, hpool] at hmay
    · have hmay := hnone .add
      simp [mayEmit, Quotas.get, WorkKind.needsTarget, hadd] at hmay
  · intro hzero kind
    have hspent : ¬ 0 < l.quotas.get kind := fun hpos =>
      (Quotas.remaining_pos_iff.2 ⟨kind, hpos⟩).ne' hzero
    simp [mayEmit, hspent]

/-! ### Works to come -/

/-- The works that are still to come. -/
def upcoming (l : Workload σ) : List Work := (l.take l.quotas.remaining).1.toList

lemma takeInto_fst (works : Array Work) (n : Nat) (l : Workload σ) :
    (takeInto works n l).1 = works ++ (l.take n).1 := by
  induction n generalizing works l with
  | zero => simp [take, takeInto]
  | succ n ih =>
    cases hnext : l.next? with
    | none => simp [take, takeInto, hnext]
    | some next =>
      obtain ⟨w, l'⟩ := next
      simp only [take, takeInto, hnext]
      rw [ih, ih (#[].push w)]
      simp

lemma upcoming_of_none (hnext : l.next? = none) : l.upcoming = [] := by
  unfold upcoming take
  cases l.quotas.remaining with
  | zero => rfl
  | succ n => simp [takeInto, hnext]

lemma upcoming_of_some (hnext : l.next? = some (w, l')) : l.upcoming = w :: l'.upcoming := by
  simp only [upcoming, take, ← remaining_of_next? hnext, takeInto, hnext]
  rw [takeInto_fst]
  simp [take]

lemma Viable.length_upcoming (hv : l.Viable) : l.upcoming.length = l.quotas.remaining := by
  induction hn : l.quotas.remaining generalizing l with
  | zero => rw [upcoming_of_none (hv.next?_eq_none_iff.2 hn), List.length_nil]
  | succ n ih =>
    cases hnext : l.next? with
    | none =>
      rw [hv.next?_eq_none_iff.1 hnext] at hn
      cases hn
    | some next =>
      obtain ⟨w, l'⟩ := next
      have hremaining := remaining_of_next? hnext
      rw [upcoming_of_some hnext, List.length_cons, ih (viable_of_next? hnext) (by omega)]

/-! ### Accepted workloads -/

/-- All works of an accepted workload are taken at once, and there are as many as were asked for. -/
lemma rest_of_create_ok {total : UInt64} {pctAdd pctUpdate : UInt32}
    (hok : create total pctAdd pctUpdate source = .ok l) :
    l.rest.1.toList = l.upcoming ∧ l.upcoming.length = total.toNat := by
  obtain ⟨hremaining, hv⟩ := create_ok hok
  have hsize : l.size.toNat = l.quotas.remaining :=
    Quotas.toNat_total (hremaining ▸ total.toNat_lt)
  exact ⟨by rw [rest, hsize, upcoming], hremaining ▸ hv.length_upcoming⟩

end Workload

/-! ### Audited workloads -/

namespace AuditedWorkload

variable {σ : Type} {a a' : AuditedWorkload σ} {w : Work} {source : σ}

lemma create_ok {total : UInt64} {pctAdd pctUpdate : UInt32}
    (hok : create total pctAdd pctUpdate source = .ok a) :
    Workload.create total pctAdd pctUpdate source = .ok a.workload ∧ a.ledger = .empty := by
  unfold create at hok
  cases h : Workload.create total pctAdd pctUpdate source with
  | error fault => simp [h, Except.map] at hok
  | ok workload =>
    simp only [h, Except.map, Except.ok.injEq] at hok
    subst hok
    exact ⟨rfl, rfl⟩

variable [RandomSource σ]

lemma next?_eq_none_iff : a.next? = none ↔ a.workload.next? = none := by
  unfold next?
  cases a.workload.next? <;> simp

/-- Taking a work leaves the ledger as it is. -/
lemma next?_eq_some (hnext : a.next? = some (w, a')) :
    a.workload.next? = some (w, a'.workload) ∧ a'.ledger = a.ledger := by
  unfold next? at hnext
  cases h : a.workload.next? with
  | none => simp [h] at hnext
  | some next =>
    simp only [h, Option.some.injEq, Prod.mk.injEq] at hnext
    obtain ⟨rfl, rfl⟩ := hnext
    exact ⟨rfl, rfl⟩

end AuditedWorkload

end ShardedIndex
