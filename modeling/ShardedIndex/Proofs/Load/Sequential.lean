import Mathlib
import ShardedIndex.Proofs.Binding.Holding
import ShardedIndex.Proofs.Load.Trace

/-!
# One writer after the other

Handing over all works first and letting the writers work them off one after the other is one of the
schedules of a load. Over indexes that refuse nothing it leaves nothing to do, and no schedule fails
unless a writer does so for a reason of its own.
-/

namespace ShardedIndex.Load

variable {σ : Type} [RandomSource σ] {b : Binding} {s : Store} {l l' l'' : Load σ} {a : Action}
  {i n : Nat} {x : Writer} {w : Work} {schedule : List Action}

/-! ### Schedules without failures -/

/-- No writer fails for a reason of its own. -/
def FailFree (schedule : List Action) : Prop := ∀ a ∈ schedule, ∀ i fault, a ≠ .fail i fault

lemma accepts_step (hp : b.Partitioned) (ha : b.Accepts l.store) (hpos : 0 < l.writers.size)
    (a : Action) : b.Accepts (l.step b a).store := by
  rcases step_eq_or_move (b := b) hpos a with heq | hm
  · rwa [heq]
  · generalize l.step b a = l' at hm
    cases hm with
    | @apply i x w n store _ _ happly =>
      obtain ⟨m, t, happly', haccepts⟩ := ha.apply_ok hp w
      rw [happly, Prod.mk.injEq] at happly'
      exact happly'.2 ▸ haccepts
    | @refuse i x w fault store _ _ happly =>
      obtain ⟨m, t, happly', haccepts⟩ := ha.apply_ok hp w
      rw [happly, Prod.mk.injEq] at happly'
      exact happly'.2 ▸ haccepts
    | _ => exact ha

omit [RandomSource σ] in
lemma failure?_of_accepts (hp : b.Partitioned) (ha : b.Accepts l.store)
    (hfail : ∀ i fault, a ≠ .fail i fault) : l.failure? b a = none := by
  cases a with
  | apply i =>
    simp only [failure?]
    cases l.stageOf i with
    | holding w =>
      obtain ⟨n, t, happly, -⟩ := ha.apply_ok hp w
      simp [happly]
    | _ => rfl
  | fail i fault => exact absurd rfl (hfail i fault)
  | _ => rfl

/-- Over indexes that refuse nothing only a writer can fail. -/
lemma failures_eq_nil (hp : b.Partitioned) (ha : b.Accepts l.store) (hpos : 0 < l.writers.size)
    (hfree : FailFree schedule) : failures b l schedule = [] := by
  induction schedule generalizing l with
  | nil => rfl
  | cons a rest ih =>
    have hhead := failure?_of_accepts hp ha (hfree a List.mem_cons_self)
    have hrest := ih (accepts_step hp ha hpos a) ((size_writers_step hpos a).symm ▸ hpos)
      fun a ha => hfree a (List.mem_cons_of_mem _ ha)
    rw [failures] at hrest ⊢
    rw [Machine.observe_cons, hhead, Option.toList_none, List.nil_append, hrest]

/-! ### Where schedules lead -/

/-- Some schedule without failures leads from one load to the other. -/
def Leads (b : Binding) (l l' : Load σ) : Prop :=
  ∃ schedule, FailFree schedule ∧ l.run b schedule = l'

lemma Leads.refl : Leads b l l := ⟨[], by simp [FailFree], rfl⟩

lemma Leads.trans (h : Leads b l l') (h' : Leads b l' l'') : Leads b l l'' := by
  obtain ⟨xs, hxs, rfl⟩ := h
  obtain ⟨ys, hys, rfl⟩ := h'
  refine ⟨xs ++ ys, fun a ha => ?_, List.foldl_append⟩
  exact (List.mem_append.1 ha).elim (hxs a) (hys a)

lemma leads_step (hfail : ∀ i fault, a ≠ .fail i fault) : Leads b l (l.step b a) :=
  ⟨[a], by simpa [FailFree] using hfail, rfl⟩

lemma leads_dispatchMany (n : Nat) : Leads b l (l.dispatchMany n) := by
  induction n generalizing l with
  | zero => exact .refl
  | succ n ih => exact (leads_step (a := .dispatch) (by simp)).trans ih

lemma leads_drain (i n : Nat) : Leads b l (l.drain b i n) := by
  induction n generalizing l with
  | zero => exact .refl
  | succ n ih =>
    have htake : Leads b l (l.take i) := leads_step (a := .take i) (by simp)
    have happly : Leads b (l.take i) ((l.take i).apply b i) :=
      leads_step (a := .apply i) (by simp)
    have hconfirm : Leads b ((l.take i).apply b i) (((l.take i).apply b i).confirm i) :=
      leads_step (a := .confirm i) (by simp)
    exact ((htake.trans happly).trans hconfirm).trans ih

/-- Carrying out a load in order is one of its schedules. -/
lemma leads_runInOrder : Leads b l (l.runInOrder b) := by
  have hdrain (writers : List Nat) {l : Load σ} : Leads b l (writers.foldl (drainAll b) l) := by
    induction writers generalizing l with
    | nil => exact .refl
    | cons i rest ih => exact (leads_drain i _).trans ih
  exact (leads_dispatchMany _).trans (hdrain _)

/-! ### Handing over -/

/-- No writer has begun, and `n` further dispatches hand over all works and find that none is
left. -/
structure HandingOver (s : Store) (n : Nat) (l : Load σ) : Prop where
  writers_pos : 0 < l.writers.size
  store_eq : l.store = s
  waiting : ∀ (i : Nat) (x : Writer), l.writers[i]? = some x → x.stage = .idle ∧ x.taken = 0
  remaining_lt : l.dispatching = true → l.audit.workload.quotas.remaining < n

lemma Move.handingOver (hm : Move b l .dispatch l') (hl : HandingOver s (n + 1) l) :
    HandingOver s n l' := by
  cases hm with
  | exhaust hd hnext => exact { hl with remaining_lt := by simp }
  | lose hd hnext hx hs =>
    rw [(hl.waiting _ _ hx).1] at hs
    cases hs
  | @send w audit x hd hnext hx hs =>
    have hremaining := Workload.remaining_of_next? (AuditedWorkload.next?_eq_some hnext).1
    have hlt := hl.remaining_lt hd
    refine ⟨by simpa using hl.writers_pos, hl.store_eq, fun i y hy => ?_, fun _ => ?_⟩
    · rw [getElem?_put (l := { l with audit }) hx] at hy
      split_ifs at hy
      · obtain rfl := Option.some.inj hy
        exact hl.waiting _ x hx
      · exact hl.waiting i y hy
    · simp only [put]
      omega

lemma HandingOver.dispatchMany (hl : HandingOver s n l) : HandingOver s 0 (l.dispatchMany n) := by
  induction n generalizing l with
  | zero => exact hl
  | succ n ih =>
    refine ih ?_
    cases hd : l.dispatching with
    | false =>
      have hsame : l.dispatch = l := by simp [dispatch, hd]
      rw [hsame]
      exact { hl with remaining_lt := by simp [hd] }
    | true =>
      -- No binding takes part in a dispatch, so any will do.
      obtain ⟨l', hm⟩ := exists_dispatch (b := .pair none) hl.writers_pos hd
      rw [show l.dispatch = l' from hm.step_eq]
      exact hm.handingOver hl

omit [RandomSource σ] in
lemma handingOver_start (audit : AuditedWorkload σ) (s : Store) (writers : Nat) :
    HandingOver s (audit.workload.quotas.remaining + 1) (start audit s writers) := by
  refine ⟨size_writers_start_pos audit s writers, rfl, fun i x hx => ?_,
    fun _ => Nat.lt_succ_self _⟩
  obtain rfl := eq_fresh_of_start hx
  exact ⟨rfl, rfl⟩

/-! ### Working off -/

/-- The first `k` writers have worked off what they got, and the others have not begun. -/
structure WorkingOff (b : Binding) (k : Nat) (l : Load σ) : Prop where
  dispatching_eq : l.dispatching = false
  accepts : b.Accepts l.store
  idle : ∀ (i : Nat) (x : Writer), l.writers[i]? = some x → x.stage = .idle
  taken_eq : ∀ (i : Nat) (x : Writer), l.writers[i]? = some x →
    x.taken = if i < k then x.inbox.size else 0

omit [RandomSource σ] in
lemma getElem?_put_self (hx : l.writers[i]? = some x) (y : Writer) :
    (l.put i y).writers[i]? = some y := by
  rw [getElem?_put hx, if_pos rfl]

/-- A writer takes, applies and confirms its next work. -/
lemma turn (hp : b.Partitioned) (ha : b.Accepts l.store) (hx : l.writers[i]? = some x)
    (hs : x.stage = .idle) (hw : x.inbox[x.taken]? = some w) :
    (((l.take i).apply b i).confirm i).dispatching = l.dispatching ∧
      b.Accepts (((l.take i).apply b i).confirm i).store ∧
      (((l.take i).apply b i).confirm i).writers =
        (l.put i ⟨x.inbox, x.taken + 1, .idle, x.confirmed + 1⟩).writers := by
  obtain ⟨n, t, happly, haccepts⟩ := ha.apply_ok hp w
  -- The writer and the load after the take, and after the apply.
  let x₁ : Writer := { x with taken := x.taken + 1, stage := .holding w }
  let l₁ := l.put i x₁
  have hx₁ : l₁.writers[i]? = some x₁ := getElem?_put_self hx x₁
  let x₂ : Writer := { x₁ with stage := .applied w }
  let l₂ := { l₁ with store := t }.put i x₂
  have hx₂ : l₂.writers[i]? = some x₂ := getElem?_put_self (l := { l₁ with store := t }) hx₁ x₂
  have htake : l.take i = l₁ := (Move.take (b := b) hx hs hw).step_eq
  have happlied : l₁.apply b i = l₂ := (Move.apply hx₁ rfl happly).step_eq
  have hconfirm : l₂.confirm i = _ := (Move.confirm (b := b) hx₂ rfl).step_eq
  rw [htake, happlied, hconfirm]
  exact ⟨rfl, haccepts, by simp [put, l₂, l₁, x₂, x₁]⟩

/-- A writer works off what is left in its inbox. -/
lemma drain_spec (hp : b.Partitioned) (ha : b.Accepts l.store) (hx : l.writers[i]? = some x)
    (hs : x.stage = .idle) (htaken : x.taken + n = x.inbox.size) :
    (l.drain b i n).dispatching = l.dispatching ∧ b.Accepts (l.drain b i n).store ∧
      ∃ y, y.stage = .idle ∧ y.taken = y.inbox.size ∧
        (l.drain b i n).writers = (l.put i y).writers := by
  induction n generalizing l x with
  | zero =>
    refine ⟨rfl, ha, x, hs, htaken, Array.ext_getElem? fun j => ?_⟩
    rw [getElem?_put hx]
    split_ifs with hij
    · rw [← hij, ← hx]
      rfl
    · rfl
  | succ n ih =>
    have hw := Array.getElem?_eq_getElem (show x.taken < x.inbox.size by omega)
    obtain ⟨hd, haccepts, hwriters⟩ := turn hp ha hx hs hw
    have hx' := getElem?_put_self hx ⟨x.inbox, x.taken + 1, .idle, x.confirmed + 1⟩
    rw [← hwriters] at hx'
    obtain ⟨hd', haccepts', y, hidle, hall, hset⟩ := ih haccepts hx' rfl (by simp only; omega)
    refine ⟨hd'.trans hd, haccepts', y, hidle, hall, ?_⟩
    rw [drain, hset]
    simp [put, hwriters]

lemma WorkingOff.drainAll {k : Nat} (hl : WorkingOff b k l) (hp : b.Partitioned)
    (hk : k < l.writers.size) :
    WorkingOff b (k + 1) (l.drainAll b k) ∧ (l.drainAll b k).writers.size = l.writers.size := by
  have hx := Array.getElem?_eq_getElem hk
  have htaken := hl.taken_eq k _ hx
  rw [if_neg (Nat.lt_irrefl k)] at htaken
  obtain ⟨hd, haccepts, y, hidle, hall, hset⟩ := drain_spec (n := l.writers[k].inbox.size) hp
    hl.accepts hx (hl.idle k _ hx) (by rw [htaken, Nat.zero_add])
  have hdrain : l.drainAll b k = l.drain b k l.writers[k].inbox.size := by
    simp [Load.drainAll, hk]
  rw [hdrain]
  refine ⟨⟨hd.trans hl.dispatching_eq, haccepts, fun i z hz => ?_, fun i z hz => ?_⟩, ?_⟩
  · rw [hset, getElem?_put hx] at hz
    split_ifs at hz
    · exact Option.some.inj hz ▸ hidle
    · exact hl.idle i z hz
  · rw [hset, getElem?_put hx] at hz
    split_ifs at hz with hik
    · obtain rfl := Option.some.inj hz
      rw [← hik, if_pos (Nat.lt_succ_self k), hall]
    · rw [hl.taken_eq i z hz]
      exact if_congr (by omega) rfl rfl
  · rw [hset, size_writers_put]

lemma WorkingOff.foldl_drainAll (hl : WorkingOff b 0 l) (hp : b.Partitioned) {k : Nat}
    (hk : k ≤ l.writers.size) :
    WorkingOff b k ((List.range k).foldl (Load.drainAll b) l) ∧
      ((List.range k).foldl (Load.drainAll b) l).writers.size = l.writers.size := by
  induction k with
  | zero => exact ⟨hl, rfl⟩
  | succ k ih =>
    obtain ⟨hoff, hsize⟩ := ih (Nat.le_of_succ_le hk)
    obtain ⟨hnext, hsize'⟩ := hoff.drainAll hp (by rwa [hsize])
    rw [List.range_succ, List.foldl_append, List.foldl_cons, List.foldl_nil]
    exact ⟨hnext, hsize'.trans hsize⟩

omit [RandomSource σ] in
lemma WorkingOff.isFinished {k : Nat} (hl : WorkingOff b k l) (hk : l.writers.size ≤ k) :
    l.isFinished = true := by
  simp only [Load.isFinished, hl.dispatching_eq, Bool.not_false, Bool.true_and,
    Array.all_eq_true_iff_forall_mem]
  intro x hx
  obtain ⟨i, hi, rfl⟩ := Array.mem_iff_getElem.1 hx
  have hget := Array.getElem?_eq_getElem hi
  have htaken := hl.taken_eq i _ hget
  rw [if_pos (hi.trans_le hk)] at htaken
  simp [hasStopped, hl.idle i _ hget, hl.dispatching_eq, htaken]

/-- A load over indexes that refuse nothing is finished when it was carried out in order. -/
lemma isFinished_runInOrder (hp : b.Partitioned) (ha : b.Accepts s) {total : UInt64}
    {pctAdd pctUpdate : UInt32} {source : σ} {audit : AuditedWorkload σ}
    (hok : AuditedWorkload.create total pctAdd pctUpdate source = .ok audit) (writers : Nat) :
    ((start audit s writers).runInOrder b).isFinished = true := by
  obtain ⟨hremaining, -⟩ := Workload.create_ok (AuditedWorkload.create_ok hok).1
  have hsize : audit.workload.size.toNat = audit.workload.quotas.remaining :=
    Quotas.toNat_total (hremaining ▸ total.toNat_lt)
  have hover := (handingOver_start audit s writers).dispatchMany
  rw [← hsize] at hover
  have hended : ((start audit s writers).dispatchMany
      (audit.workload.size.toNat + 1)).dispatching = false := by
    by_contra hd
    exact Nat.not_lt_zero _ (hover.remaining_lt (by simpa using hd))
  have hoff : WorkingOff b 0
      ((start audit s writers).dispatchMany (audit.workload.size.toNat + 1)) :=
    ⟨hended, by rwa [hover.store_eq], fun i x hx => (hover.waiting i x hx).1,
      fun i x hx => (hover.waiting i x hx).2⟩
  obtain ⟨hdone, hwriters⟩ := hoff.foldl_drainAll hp le_rfl
  exact hdone.isFinished hwriters.le

end ShardedIndex.Load
