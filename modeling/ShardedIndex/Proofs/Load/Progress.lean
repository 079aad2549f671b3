import Mathlib
import ShardedIndex.Proofs.Load.Move

/-!
# Progress of a load

Every move brings a load nearer to its end, so only so many actions of a schedule can matter; and a
load that has not finished can move on without a failure.
-/

namespace ShardedIndex

/-- How many moves are ahead of a writer, at most, with the works that it was handed. -/
def Writer.effort (x : Writer) : Nat := 3 * (x.inbox.size - x.taken) + x.stage.distance

namespace Load

variable {σ : Type} {b : Binding} {l l' : Load σ} {a : Action} {i : Nat} {x y : Writer}
  {schedule : List Action}

/-! ### Sums over the writers -/

/-- A number of each writer, summed up. -/
def total (f : Writer → Nat) (l : Load σ) : Nat := (l.writers.toList.map f).sum

lemma sum_map_set {α : Type} (f : α → Nat) {xs : List α} {i : Nat} {x : α} (y : α)
    (hx : xs[i]? = some x) : ((xs.set i y).map f).sum + f x = (xs.map f).sum + f y := by
  induction xs generalizing i with
  | nil => cases hx
  | cons z zs ih =>
    cases i with
    | zero =>
      obtain rfl : z = x := Option.some.inj hx
      simp only [List.set_cons_zero, List.map_cons, List.sum_cons]
      omega
    | succ i =>
      have hzs := ih hx
      simp only [List.set_cons_succ, List.map_cons, List.sum_cons]
      omega

lemma total_set (f : Writer → Nat) (hx : l.writers[i]? = some x)
    (hset : l'.writers = (l.put i y).writers) : l'.total f + f x = l.total f + f y := by
  simp only [total, hset, put, Array.toList_setIfInBounds]
  exact sum_map_set f y (by simpa using hx)

lemma total_start (f : Writer → Nat) (hf : f .fresh = 0) (audit : AuditedWorkload σ) (s : Store)
    (writers : Nat) : (start audit s writers).total f = 0 := by
  simp [total, start, hf]

lemma confirmedCount_eq (l : Load σ) : l.confirmedCount = l.total Writer.confirmed := by
  rw [confirmedCount, total, ← Array.foldl_toList, List.sum_eq_foldl, List.foldl_map]

/-! ### Effort -/

/-- How many moves are ahead of a load, at most. -/
def effort (l : Load σ) : Nat :=
  4 * l.audit.workload.quotas.remaining + l.dispatching.toNat + l.total Writer.effort

lemma effort_start (audit : AuditedWorkload σ) (s : Store) (writers : Nat) :
    (start audit s writers).effort = 4 * audit.workload.quotas.remaining + 1 := by
  rw [effort, total_start Writer.effort rfl]
  rfl

/-- A move of one writer. -/
lemma effort_lt_of_set (hx : l.writers[i]? = some x) (hset : l'.writers = (l.put i y).writers)
    (hworkload : l'.audit.workload = l.audit.workload) (hd : l'.dispatching = l.dispatching)
    (hlt : y.effort < x.effort) : l'.effort < l.effort := by
  have htotal := total_set Writer.effort hx hset
  simp only [effort, hworkload, hd]
  omega

variable [RandomSource σ]

lemma Move.effort_lt (hm : Move b l a l') : l'.effort < l.effort := by
  cases hm with
  | exhaust hd hnext => simp [effort, total, hd]
  | lose hd hnext hx hs =>
    have hremaining := Workload.remaining_of_next? (AuditedWorkload.next?_eq_some hnext).1
    simp only [effort, total, hd, Bool.toNat_true, Bool.toNat_false]
    omega
  | @send w audit x hd hnext hx hs =>
    -- A work weighs four among the quotas and three in an inbox.
    have hremaining := Workload.remaining_of_next? (AuditedWorkload.next?_eq_some hnext).1
    have hset : ({ l with audit }.put (l.writerOf w) { x with inbox := x.inbox.push w }).writers =
        (l.put (l.writerOf w) { x with inbox := x.inbox.push w }).writers := rfl
    have htotal := total_set Writer.effort hx hset
    simp only [effort, put, Writer.effort, Array.size_push] at htotal ⊢
    omega
  | take hx hs hw =>
    have hlt := (Array.getElem?_eq_some_iff.1 hw).1
    refine effort_lt_of_set hx rfl rfl rfl ?_
    simp only [Writer.effort, hs, Stage.distance]
    omega
  | apply hx hs ha =>
    exact effort_lt_of_set hx rfl rfl rfl (by simp [Writer.effort, hs, Stage.distance])
  | refuse hx hs ha =>
    exact effort_lt_of_set hx rfl rfl rfl (by simp [Writer.effort, hs, Stage.distance])
  | fail hx hs =>
    exact effort_lt_of_set hx rfl rfl rfl (by simp [Writer.effort, hs, Stage.distance])
  | confirm hx hs =>
    exact effort_lt_of_set hx rfl rfl rfl (by simp [Writer.effort, hs, Stage.distance])
  | close hx hs =>
    exact effort_lt_of_set hx rfl rfl rfl (by simp [Writer.effort, hs, Stage.distance])

/-! ### Schedules -/

lemma size_writers_step (hpos : 0 < l.writers.size) (a : Action) :
    (l.step b a).writers.size = l.writers.size := by
  rcases step_eq_or_move (b := b) hpos a with heq | hm
  · rw [heq]
  · exact hm.size_writers

/-- A schedule each of whose actions is possible when its turn comes. -/
def Effective (b : Binding) : Load σ → List Action → Prop
  | _, []        => True
  | l, a :: rest => l.step b a ≠ l ∧ Effective b (l.step b a) rest

/-- Only so many actions can be possible, one after the other. -/
lemma Effective.length_le (he : l.Effective b schedule) (hpos : 0 < l.writers.size) :
    schedule.length ≤ l.effort := by
  induction schedule generalizing l with
  | nil => exact Nat.zero_le _
  | cons a rest ih =>
    obtain ⟨hne, hrest⟩ := he
    rcases step_eq_or_move (b := b) hpos a with heq | hm
    · exact absurd heq hne
    · have hle := ih hrest ((size_writers_step hpos a).symm ▸ hpos)
      have hlt := hm.effort_lt
      rw [List.length_cons]
      omega

/-! ### Unfinished loads -/

lemma Move.step_ne (hm : Move b l a l') : l.step b a ≠ l := by
  intro heq
  have hlt := hm.effort_lt
  rw [← hm.step_eq, heq] at hlt
  exact Nat.lt_irrefl _ hlt

/-- A writer that has not stopped can go on, unless it waits for the dispatcher. -/
lemma exists_move_of_not_stopped (hd : l.dispatching = false) (hx : l.writers[i]? = some x)
    (htaken : x.taken ≤ x.inbox.size) (hstopped : l.hasStopped x = false) :
    ∃ a l', Move b l a l' ∧ ∀ j fault, a ≠ .fail j fault := by
  cases hs : x.stage with
  | idle =>
    have hlt : x.taken < x.inbox.size := by
      simp only [hasStopped, hs, hd, Bool.not_false, Bool.true_and, decide_eq_false_iff_not]
        at hstopped
      omega
    exact ⟨_, _, .take hx hs (Array.getElem?_eq_getElem hlt), by simp⟩
  | holding w =>
    obtain ⟨l', hm⟩ := exists_apply (b := b) hx hs
    exact ⟨_, l', hm, by simp⟩
  | applied w => exact ⟨_, _, .confirm hx hs, by simp⟩
  | failed fault => simp [hasStopped, hs] at hstopped
  | closed fault => simp [hasStopped, hs] at hstopped

/-- A load that has not finished can go on. -/
lemma exists_step_ne (hpos : 0 < l.writers.size)
    (htaken : ∀ (i : Nat) (x : Writer), l.writers[i]? = some x → x.taken ≤ x.inbox.size)
    (hf : l.isFinished = false) : ∃ a, (∀ j fault, a ≠ .fail j fault) ∧ l.step b a ≠ l := by
  by_cases hd : l.dispatching = true
  · obtain ⟨l', hm⟩ := exists_dispatch (b := b) hpos hd
    exact ⟨.dispatch, by simp, hm.step_ne⟩
  · rw [Bool.not_eq_true] at hd
    rw [isFinished, hd, Bool.not_false, Bool.true_and, Array.all_eq_false] at hf
    obtain ⟨i, hi, hstopped⟩ := hf
    rw [Bool.not_eq_true] at hstopped
    have hx := Array.getElem?_eq_getElem hi
    obtain ⟨a, l', hm, hne⟩ :=
      exists_move_of_not_stopped (b := b) hd hx (htaken i _ hx) hstopped
    exact ⟨a, hne, hm.step_ne⟩

end Load

end ShardedIndex
