import Mathlib
import ShardedIndex.Proofs.Load.Outcome
import ShardedIndex.Proofs.Load.Progress

/-!
# Traces of a run

A run is told by what is seen along it: which writer confirmed which work, and which writer failed
on what. The failures decide how a load comes out.
-/

namespace ShardedIndex.Load

variable {σ : Type} {b : Binding} {l l' : Load σ} {a : Action} {i j : Nat} {x y : Writer}
  {fault : Fault} {α : Type}

/-! ### What is seen -/

/-- The writer and the work of a confirmation. -/
def confirmation? (l : Load σ) : Action → Option (Nat × Work)
  | .confirm i => (l.stageOf i).pending?.map (i, ·)
  | _          => none

/-- The writer and the fault of an apply that fails, at an index or for a reason of its own. -/
def failure? (b : Binding) (l : Load σ) : Action → Option (Nat × Fault)
  | .apply i      =>
    match l.stageOf i with
    | .holding w =>
      match b.apply w l.store with
      | (.error fault, _) => some (i, fault)
      | (.ok _, _)        => none
    | _          => none
  | .fail i fault =>
    match l.stageOf i with
    | .holding _ => some (i, fault)
    | _          => none
  | _             => none

variable [RandomSource σ]

/-- The confirmations of a run. -/
def confirmations (b : Binding) (l : Load σ) (schedule : List Action) : List (Nat × Work) :=
  Machine.observe (step b) confirmation? l schedule

/-- The failures of a run. -/
def failures (b : Binding) (l : Load σ) (schedule : List Action) : List (Nat × Fault) :=
  Machine.observe (step b) (failure? b) l schedule

/-! ### Induction along a run -/

/-- What every move keeps, with what is seen of it, a run keeps. Nothing may be seen of an action
that is not possible. -/
lemma run_induction {see : Load σ → Action → Option α} {P : Load σ → List α → Prop}
    (hmove : ∀ {l : Load σ} {a l' seen}, Move b l a l' → P l seen →
      P l' (seen ++ (see l a).toList))
    (hsee : ∀ {l : Load σ} {a}, l.step b a = l → see l a = none) {seen : List α}
    (hpos : 0 < l.writers.size) (hl : P l seen) (schedule : List Action) :
    P (l.run b schedule) (seen ++ Machine.observe (step b) see l schedule) := by
  have hstep (l : Load σ) (a : Action) (seen : List α) (hl : 0 < l.writers.size ∧ P l seen) :
      0 < (l.step b a).writers.size ∧ P (l.step b a) (seen ++ (see l a).toList) := by
    obtain ⟨hpos, hl⟩ := hl
    refine ⟨(size_writers_step hpos a).symm ▸ hpos, ?_⟩
    rcases step_eq_or_move (b := b) hpos a with heq | hm
    · simpa [hsee heq, heq] using hl
    · exact hmove hm hl
  exact (Machine.observe_induction hstep ⟨hpos, hl⟩ schedule).2

lemma confirmation?_eq_none (heq : l.step b a = l) : l.confirmation? a = none := by
  cases a with
  | confirm i =>
    cases hx : l.writers[i]? with
    | none => simp [confirmation?, stageOf_eq_idle hx, Stage.pending?]
    | some x =>
      cases hs : x.stage with
      | applied w => exact absurd heq (Move.confirm hx hs).step_ne
      | _ => simp [confirmation?, stageOf_eq hx, hs, Stage.pending?]
  | _ => rfl

lemma failure?_eq_none (heq : l.step b a = l) : l.failure? b a = none := by
  cases a with
  | apply i =>
    cases hx : l.writers[i]? with
    | none => simp [failure?, stageOf_eq_idle hx]
    | some x =>
      cases hs : x.stage with
      | holding w =>
        obtain ⟨l', hm⟩ := exists_apply (b := b) hx hs
        exact absurd heq hm.step_ne
      | _ => simp [failure?, stageOf_eq hx, hs]
  | fail i fault =>
    cases hx : l.writers[i]? with
    | none => simp [failure?, stageOf_eq_idle hx]
    | some x =>
      cases hs : x.stage with
      | holding w => exact absurd heq (Move.fail hx hs).step_ne
      | _ => simp [failure?, stageOf_eq hx, hs]
  | _ => rfl

/-! ### Failures -/

lemma Move.stoppedBy {failed : List (Nat × Fault)} (hm : Move b l a l') (hl : l.StoppedBy failed) :
    l'.StoppedBy (failed ++ (l.failure? b a).toList) := by
  cases hm with
  | refuse hx hs ha =>
    simp only [failure?, stageOf_eq hx, hs, ha, Option.toList_some]
    exact hl.stop hx rfl (by rw [hs]; rfl) rfl
  | fail hx hs =>
    simp only [failure?, stageOf_eq hx, hs, Option.toList_some]
    exact hl.stop hx rfl (by rw [hs]; rfl) rfl
  | apply hx hs ha =>
    simp only [failure?, stageOf_eq hx, hs, ha, Option.toList_none, List.append_nil]
    exact hl.keep hx rfl (by rw [hs]; rfl)
  | exhaust | lose =>
    simp only [failure?, Option.toList_none, List.append_nil]
    exact hl
  | send hd hnext hx hs =>
    simp only [failure?, Option.toList_none, List.append_nil]
    exact hl.keep hx rfl rfl
  | take hx hs hw =>
    simp only [failure?, Option.toList_none, List.append_nil]
    exact hl.keep hx rfl (by rw [hs]; rfl)
  | confirm hx hs =>
    simp only [failure?, Option.toList_none, List.append_nil]
    exact hl.keep hx rfl (by rw [hs]; rfl)
  | close hx hs =>
    simp only [failure?, Option.toList_none, List.append_nil]
    exact hl.keep hx rfl (by rw [hs]; rfl)

/-- After a run the stopped writers are those that failed along it. -/
lemma stoppedBy_failures (b : Binding) (audit : AuditedWorkload σ) (s : Store) (writers : Nat)
    (schedule : List Action) : ((start audit s writers).run b schedule).StoppedBy
      (failures b (start audit s writers) schedule) :=
  run_induction (P := StoppedBy) Move.stoppedBy failure?_eq_none
    (size_writers_start_pos audit s writers) (stoppedBy_start audit s writers) schedule

end ShardedIndex.Load
