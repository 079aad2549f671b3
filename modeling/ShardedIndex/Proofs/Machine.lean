import Mathlib

/-!
# Runs of machines

A machine here is a function that takes a state and an action to the next state, and a run folds it
over a schedule of actions. What holds of every machine is said in this module: a run keeps what
every step keeps, also together with what is seen along the run; and a machine that puts one of its
parts in the place of another leaves all others where they are.
-/

namespace ShardedIndex.Machine

variable {S A O : Type} {step : S → A → S} {see : S → A → Option O} {s : S}

/-! ### Runs -/

/-- What every step keeps, a run keeps. -/
lemma run_induction {P : S → Prop} (hstep : ∀ s a, P s → P (step s a)) (hs : P s)
    (schedule : List A) : P (schedule.foldl step s) :=
  schedule.foldlRecOn step hs fun s hs a _ => hstep s a hs

/-- What is seen along a run, where `see` looks at a state and at the action that comes next. -/
def observe (step : S → A → S) (see : S → A → Option O) : S → List A → List O
  | _, []        => []
  | s, a :: rest => (see s a).toList ++ observe step see (step s a) rest

@[simp] lemma observe_nil : observe step see s [] = [] := rfl

lemma observe_cons (a : A) (rest : List A) : observe step see s (a :: rest) =
    (see s a).toList ++ observe step see (step s a) rest := rfl

/-- What every step keeps, with what is seen of it, a run keeps. -/
lemma observe_induction {P : S → List O → Prop}
    (hstep : ∀ s a seen, P s seen → P (step s a) (seen ++ (see s a).toList)) {seen : List O}
    (hs : P s seen) (schedule : List A) :
    P (schedule.foldl step s) (seen ++ observe step see s schedule) := by
  induction schedule generalizing s seen with
  | nil => rwa [observe_nil, List.append_nil]
  | cons a rest ih =>
    -- What is seen of the first action joins what was seen before.
    rw [observe_cons, ← List.append_assoc]
    exact ih (hstep s a seen hs)

/-! ### Parts -/

variable {α β : Type} {parts : Array α} {i j : Nat} {x y : α}

lemma getElem?_setIfInBounds (hi : parts[i]? = some x) :
    (parts.setIfInBounds i y)[j]? = if i = j then some y else parts[j]? := by
  have hlt : i < parts.size := (Array.getElem?_eq_some_iff.1 hi).1
  simp [Array.getElem?_setIfInBounds, hlt]

/-- What the new part has in common with the old one, the parts keep. -/
lemma map_setIfInBounds {f : α → β} (hi : parts[i]? = some x) (hf : f y = f x) :
    (parts.setIfInBounds i y).map f = parts.map f := by
  apply Array.ext_getElem?
  intro j
  rw [Array.getElem?_map, Array.getElem?_map, getElem?_setIfInBounds hi]
  split_ifs with hij
  · rw [← hij, hi, Option.map_some, Option.map_some, hf]
  · rfl

end ShardedIndex.Machine
