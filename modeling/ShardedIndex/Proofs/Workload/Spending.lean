import Mathlib
import ShardedIndex.Proofs.Workload.Sequence

/-!
# Spending the quotas

A call for the next work either yields a work and spends one of its quota, or there is no quota left
and the call changes nothing. So the works of each kind that were yielded and the quota that is left
always make up the quota that the workload started with, and a workload yields as many works as it
was asked for, whatever its random source.
-/

namespace ShardedIndex

lemma Quotas.remaining_eq_zero_iff {q : Quotas} : q.remaining = 0 ↔ ∀ kind, q.get kind = 0 := by
  rw [← Nat.le_zero, ← Nat.not_lt, remaining_pos_iff, not_exists]
  simp only [UInt64.pos_iff_ne_zero, not_not]

namespace Workload

variable {σ : Type} {l l' : Workload σ} {w : Work} {n : Nat}

/-! ### Accepted workloads -/

lemma create_eq_ok_iff {total : UInt64} {pctAdd pctUpdate : UInt32} {source : σ} :
    create total pctAdd pctUpdate source = .ok l ↔
      pctAdd.toNat + pctUpdate.toNat ≤ 100 ∧ pctAdd ≠ 0 ∧
        (Quotas.ofPercentages total pctAdd pctUpdate).add ≠ 0 ∧
        l = ⟨source, Quotas.ofPercentages total pctAdd pctUpdate, #[], 1⟩ := by
  simp only [create]
  split_ifs with hratio hshare hzero
  · simp [hratio]
  · simp [hshare]
  · simp [hzero]
  · simp [Nat.le_of_not_lt hratio, hshare, hzero, eq_comm]

variable [RandomSource σ]

/-! ### Calls -/

/-- A call for the next work: what it yields, and the workload after it. -/
def call (l : Workload σ) : Option Work × Workload σ :=
  match l.next? with
  | some (w, l') => (some w, l')
  | none         => (none, l)

/-- The workload after a number of calls. -/
def after (l : Workload σ) : Nat → Workload σ
  | 0     => l
  | n + 1 => (l.after n).call.2

/-- The works that a number of calls yield. -/
def yielded (l : Workload σ) : Nat → List Work
  | 0     => []
  | n + 1 => l.yielded n ++ (l.after n).call.1.toList

lemma call_of_some (hnext : l.next? = some (w, l')) : l.call = (some w, l') := by
  rw [call, hnext]

lemma call_of_none (hnext : l.next? = none) : l.call = (none, l) := by
  rw [call, hnext]

lemma call_eq_none_iff : l.call.1 = none ↔ l.next? = none := by
  cases hnext : l.next? with
  | none => simp [call_of_none hnext]
  | some next => simp [call_of_some hnext]

/-- What holds at first and is kept whenever a work is yielded holds after any number of calls. -/
lemma yielded_induction {P : List Work → Workload σ → Prop} (hl : P [] l)
    (hstep : ∀ {ws l w l'}, P ws l → l.next? = some (w, l') → P (ws ++ [w]) l') (n : Nat) :
    P (l.yielded n) (l.after n) := by
  induction n with
  | zero => exact hl
  | succ n ih =>
    rw [yielded, after]
    cases hnext : (l.after n).next? with
    | none => simpa [call_of_none hnext] using ih
    | some next => simpa [call_of_some hnext] using hstep ih hnext

lemma Viable.after (hv : l.Viable) (n : Nat) : (l.after n).Viable :=
  yielded_induction (P := fun _ l => l.Viable) hv (fun _ hnext => viable_of_next? hnext) n

/-! ### Calls from the front -/

lemma after_succ (l : Workload σ) (n : Nat) : l.after (n + 1) = l.call.2.after n := by
  induction n with
  | zero => rfl
  | succ n ih => rw [after, ih, ← after]

lemma yielded_succ (l : Workload σ) (n : Nat) :
    l.yielded (n + 1) = l.call.1.toList ++ l.call.2.yielded n := by
  induction n with
  | zero => simp [yielded, after]
  | succ n ih => rw [yielded, ih, after_succ, yielded, List.append_assoc]

/-- A workload that yields nothing stays as it is and never yields anything again. -/
lemma after_of_none (hnext : l.next? = none) (n : Nat) : l.after n = l := by
  induction n with
  | zero => rfl
  | succ n ih => rw [after, ih, call_of_none hnext]

lemma yielded_of_none (hnext : l.next? = none) (n : Nat) : l.yielded n = [] := by
  induction n with
  | zero => rfl
  | succ n ih => rw [yielded, ih, after_of_none hnext, call_of_none hnext, Option.toList_none,
      List.append_nil]

/-- Taking works is calling for them, up to the first call that yields nothing. -/
lemma takeInto_eq (works : Array Work) (n : Nat) (l : Workload σ) :
    takeInto works n l = (works ++ (l.yielded n).toArray, l.after n) := by
  induction n generalizing works l with
  | zero => simp [takeInto, yielded, after]
  | succ n ih =>
    cases hnext : l.next? with
    | none => simp [takeInto, hnext, yielded_of_none hnext, after_of_none hnext]
    | some next =>
      simp [takeInto, hnext, ih, yielded_succ, after_succ, call_of_some hnext]

lemma take_eq (n : Nat) (l : Workload σ) : l.take n = ((l.yielded n).toArray, l.after n) := by
  rw [take, takeInto_eq, Array.empty_append]

/-! ### Quotas -/

lemma kind_emit (l : Workload σ) (kind : WorkKind) (source : σ) :
    (l.emit kind source).1.kind = kind := by
  cases kind <;> rfl

/-- A work spends one of the quota of its kind. -/
lemma get_quotas_of_next? (hnext : l.next? = some (w, l')) (kind : WorkKind) :
    (if w.kind = kind then 1 else 0) + (l'.quotas.get kind).toNat = (l.quotas.get kind).toNat := by
  obtain ⟨spent, source, hmay, hemit⟩ := next?_eq_some hnext
  have hkind : w.kind = spent := by rw [← kind_emit l spent source, hemit]
  have hquotas : l'.quotas = l.quotas.spend spent := by
    rw [← quotas_emit l spent source, hemit]
  rw [hkind, hquotas, Quotas.get_spend]
  split_ifs with heq
  · subst heq
    have hpos : 1 ≤ l.quotas.get spent := by
      simp only [mayEmit, Bool.and_eq_true, decide_eq_true_eq] at hmay
      exact hmay.1
    have hle : 1 ≤ (l.quotas.get spent).toNat := UInt64.le_iff_toNat_le.1 hpos
    rw [UInt64.toNat_sub_of_le _ _ hpos]
    exact Nat.add_sub_of_le hle
  · exact Nat.zero_add _

/-- The works of a kind that were yielded make up, with what is left, the quota of the kind. -/
lemma countP_yielded (l : Workload σ) (n : Nat) (kind : WorkKind) :
    (l.yielded n).countP (·.kind = kind) + ((l.after n).quotas.get kind).toNat =
      (l.quotas.get kind).toNat := by
  refine yielded_induction (P := fun ws l' => ws.countP (·.kind = kind) +
    (l'.quotas.get kind).toNat = (l.quotas.get kind).toNat) (by simp) ?_ n
  intro ws l₁ w l₂ hl hnext
  have hspent := get_quotas_of_next? hnext kind
  rw [List.countP_append, List.countP_singleton, ← hl, ← hspent]
  simp only [decide_eq_true_eq]
  omega

lemma length_yielded_add_remaining (l : Workload σ) (n : Nat) :
    (l.yielded n).length + (l.after n).quotas.remaining = l.quotas.remaining := by
  refine yielded_induction (P := fun ws l' => ws.length + l'.quotas.remaining =
    l.quotas.remaining) (by simp) ?_ n
  intro ws l₁ w l₂ hl hnext
  have hspent := remaining_of_next? hnext
  rw [List.length_append, List.length_singleton]
  omega

/-- A viable workload yields a work at every call until its quotas are spent. -/
lemma Viable.length_yielded (hv : l.Viable) (n : Nat) :
    (l.yielded n).length = min n l.quotas.remaining := by
  induction n with
  | zero => simp [yielded]
  | succ n ih =>
    have hsum := l.length_yielded_add_remaining n
    have hend := (hv.after n).next?_eq_none_iff
    rw [yielded, List.length_append, ih]
    cases hnext : (l.after n).next? with
    | none =>
      have hzero := hend.1 hnext
      rw [call_of_none hnext, Option.toList_none, List.length_nil]
      omega
    | some next =>
      have hpos : (l.after n).quotas.remaining ≠ 0 := fun hzero => by
        rw [hend.2 hzero] at hnext
        cases hnext
      rw [call_of_some hnext, Option.toList_some, List.length_singleton]
      omega

/-- As many calls as there are works spend all the quotas of an accepted workload. -/
lemma countP_yielded_of_le {total : UInt64} {pctAdd pctUpdate : UInt32} {source : σ}
    (hok : create total pctAdd pctUpdate source = .ok l) (hn : total.toNat ≤ n) (kind : WorkKind) :
    (l.yielded n).countP (·.kind = kind) =
      ((Quotas.ofPercentages total pctAdd pctUpdate).get kind).toNat := by
  obtain ⟨hremaining, hv⟩ := create_ok hok
  obtain ⟨-, -, -, hl⟩ := create_eq_ok_iff.1 hok
  have hquotas : l.quotas = Quotas.ofPercentages total pctAdd pctUpdate := by rw [hl]
  have hlength := hv.length_yielded n
  have hsum := l.length_yielded_add_remaining n
  have hspent : (l.after n).quotas.remaining = 0 := by omega
  have hcount := l.countP_yielded n kind
  rwa [Quotas.remaining_eq_zero_iff.1 hspent kind, UInt64.toNat_zero, Nat.add_zero, hquotas]
    at hcount

/-- The works of an accepted workload are those that as many calls yield. -/
lemma rest_eq_yielded {total : UInt64} {pctAdd pctUpdate : UInt32} {source : σ}
    (hok : create total pctAdd pctUpdate source = .ok l) :
    l.rest.1.toList = l.yielded total.toNat := by
  obtain ⟨hremaining, -⟩ := create_ok hok
  rw [(rest_of_create_ok hok).1, upcoming, hremaining, take_eq]

/-- An accepted workload spends exactly its quotas and then stops. After any number of calls, with
any random source, the works of each kind and the quota that is left make up the quota of the kind;
the size is the number of works that further calls yield; the next call yields nothing exactly when
no quota is left, which is so after as many works as were asked for; and then no call ever changes
anything or yields a work again. Taking works at once is the same as calling for them. -/
theorem quotas_spent {total : UInt64} {pctAdd pctUpdate : UInt32} {source : σ}
    (hok : create total pctAdd pctUpdate source = .ok l) (n : Nat) :
    let works := l.yielded n
    let l' := l.after n
    (∀ kind, works.countP (·.kind = kind) + (l'.quotas.get kind).toNat =
        ((Quotas.ofPercentages total pctAdd pctUpdate).get kind).toNat) ∧
      (∀ m, (l'.yielded m).length = min m l'.size.toNat) ∧
      (l'.call.1 = none ↔ ∀ kind, l'.quotas.get kind = 0) ∧
      (l'.call.1 = none ↔ total.toNat ≤ n) ∧ works.length = min n total.toNat ∧
      (l'.call.1 = none → ∀ m, l'.after m = l' ∧ (l'.after m).call = (none, l')) ∧
      l.take n = (works.toArray, l') := by
  intro works l'
  obtain ⟨hremaining, hv⟩ := create_ok hok
  obtain ⟨-, -, -, hl⟩ := create_eq_ok_iff.1 hok
  have hsum : works.length + l'.quotas.remaining = total.toNat :=
    (l.length_yielded_add_remaining n).trans hremaining
  have hlength : works.length = min n total.toNat := hremaining ▸ hv.length_yielded n
  have hv' : l'.Viable := hv.after n
  have hsize : l'.size.toNat = l'.quotas.remaining := by
    have hlt := total.toNat_lt
    exact Quotas.toNat_total (by omega)
  have hend : l'.call.1 = none ↔ l'.quotas.remaining = 0 :=
    call_eq_none_iff.trans hv'.next?_eq_none_iff
  refine ⟨fun kind => ?_, fun m => hsize ▸ hv'.length_yielded m,
    hend.trans Quotas.remaining_eq_zero_iff, ?_, hlength, fun hnone m => ?_, l.take_eq n⟩
  · rw [l.countP_yielded n kind, hl]
  · rw [hend]
    omega
  · have hnext := call_eq_none_iff.1 hnone
    rw [after_of_none hnext]
    exact ⟨rfl, call_of_none hnext⟩

/-- One add, and nothing but deletes after it. -/
theorem quotas_spent_oneAdd :
    let l : Workload WordSource := ⟨.script [], ⟨1, 0, 99⟩, #[], 1⟩
    create 100 1 0 (.script []) = .ok l ∧ (l.yielded 100).length = 100 ∧
      (l.yielded 100).countP (·.kind = .add) = 1 ∧
      (l.yielded 100).countP (·.kind = .delete) = 99 ∧ (l.after 100).call.1 = none := by
  intro l
  have hok : create 100 1 0 (.script []) = .ok l := rfl
  obtain ⟨hcount, -, hspent, hend, hlength, -⟩ := quotas_spent hok 100
  have hnone : (l.after 100).call.1 = none := hend.2 (by decide)
  have hzero := hspent.1 hnone
  have hquotas : Quotas.ofPercentages 100 1 0 = ⟨1, 0, 99⟩ := rfl
  have hyielded (kind : WorkKind) : (l.yielded 100).countP (·.kind = kind) =
      (Quotas.get ⟨1, 0, 99⟩ kind).toNat := by
    rw [← hquotas, ← hcount kind, hzero kind, UInt64.toNat_zero, Nat.add_zero]
  exact ⟨hok, hlength, hyielded .add, hyielded .delete, hnone⟩

end Workload

end ShardedIndex
