import Mathlib
import ShardedIndex.Load.Run
import ShardedIndex.Proofs.Machine
import ShardedIndex.Proofs.Workload.Sequence

/-!
# Moves of a load

An action that is not possible changes nothing; every other one is one of nine moves. The moves say
all that a step can do, and the statements about runs look at nothing else.
-/

namespace ShardedIndex

/-! ### Stages -/

namespace Stage

/-- The work that a writer is busy with. -/
def work? : Stage → Option Work
  | holding w => some w
  | applied w => some w
  | _         => none

/-- The work that a writer applied but did not confirm yet. -/
def pending? : Stage → Option Work
  | applied w => some w
  | _         => none

lemma work?_of_pending? {stage : Stage} {w : Work} (hw : stage.pending? = some w) :
    stage.work? = some w := by
  cases stage with
  | applied v => exact hw
  | _ => cases hw

/-- How many moves a writer is away from its next work, or from closing. -/
def distance : Stage → Nat
  | holding _ => 2
  | applied _ => 1
  | failed _  => 1
  | _         => 0

end Stage

namespace Load

variable {σ : Type} {b : Binding} {l l' : Load σ} {a : Action} {i j : Nat} {x y : Writer}

/-! ### One writer -/

/-- Put a writer in the place of another one. -/
def put (l : Load σ) (i : Nat) (x : Writer) : Load σ :=
  { l with writers := l.writers.setIfInBounds i x }

lemma modify_writers (hx : l.writers[i]? = some x) (f : Writer → Writer) :
    l.writers.modify i f = l.writers.setIfInBounds i (f x) := by
  apply Array.ext_getElem?
  intro j
  rw [Array.getElem?_modify, Array.getElem?_setIfInBounds]
  split_ifs with hij hlt
  · subst hij
    simp [hx]
  · subst hij
    simp [Array.getElem?_eq_none (Nat.le_of_not_lt hlt)]
  · rfl

lemma modify_writers_eq_self {f : Writer → Writer}
    (hf : ∀ x, l.writers[i]? = some x → f x = x) : l.writers.modify i f = l.writers := by
  apply Array.ext_getElem?
  intro j
  rw [Array.getElem?_modify]
  split_ifs with hij
  · subst hij
    cases hx : l.writers[i]? with
    | none => rfl
    | some x => rw [Option.map_some, hf x hx]
  · rfl

lemma stageOf_eq (hx : l.writers[i]? = some x) : l.stageOf i = x.stage := by simp [stageOf, hx]

lemma stageOf_eq_idle (hx : l.writers[i]? = none) : l.stageOf i = .idle := by simp [stageOf, hx]

lemma getElem?_writerOf (hpos : 0 < l.writers.size) (w : Work) :
    ∃ x, l.writers[l.writerOf w]? = some x :=
  ⟨_, Array.getElem?_eq_getElem (Routing.ordinal_lt _ hpos)⟩

lemma getElem?_put (hx : l.writers[i]? = some x) :
    (l.put i y).writers[j]? = if i = j then some y else l.writers[j]? :=
  Machine.getElem?_setIfInBounds hx

@[simp] lemma size_writers_put : (l.put i x).writers.size = l.writers.size := by simp [put]

/-! ### Moves -/

variable [RandomSource σ]

/-- An action that is possible, and the load after it. -/
inductive Move (b : Binding) (l : Load σ) : Action → Load σ → Prop
  /-- The dispatcher finds no further work. -/
  | exhaust (hd : l.dispatching = true) (hnext : l.audit.next? = none) :
      Move b l .dispatch { l with dispatching := false }
  /-- The dispatcher finds the writer of the next work closed; the work is lost. -/
  | lose {w : Work} {audit : AuditedWorkload σ} {x : Writer} {fault : Fault}
      (hd : l.dispatching = true) (hnext : l.audit.next? = some (w, audit))
      (hx : l.writers[l.writerOf w]? = some x) (hs : x.stage = .closed fault) :
      Move b l .dispatch { l with audit, dispatching := false }
  /-- The dispatcher hands over the next work. -/
  | send {w : Work} {audit : AuditedWorkload σ} {x : Writer} (hd : l.dispatching = true)
      (hnext : l.audit.next? = some (w, audit)) (hx : l.writers[l.writerOf w]? = some x)
      (hs : ∀ fault, x.stage ≠ .closed fault) :
      Move b l .dispatch
        ({ l with audit }.put (l.writerOf w) { x with inbox := x.inbox.push w })
  | take {i : Nat} {x : Writer} {w : Work} (hx : l.writers[i]? = some x) (hs : x.stage = .idle)
      (hw : x.inbox[x.taken]? = some w) :
      Move b l (.take i) (l.put i { x with taken := x.taken + 1, stage := .holding w })
  | apply {i : Nat} {x : Writer} {w : Work} {n : Nat} {store : Store}
      (hx : l.writers[i]? = some x) (hs : x.stage = .holding w)
      (ha : b.apply w l.store = (.ok n, store)) :
      Move b l (.apply i) ({ l with store }.put i { x with stage := .applied w })
  /-- An index refuses the work that a writer applies. -/
  | refuse {i : Nat} {x : Writer} {w : Work} {fault : Fault} {store : Store}
      (hx : l.writers[i]? = some x) (hs : x.stage = .holding w)
      (ha : b.apply w l.store = (.error fault, store)) :
      Move b l (.apply i) ({ l with store }.put i { x with stage := .failed fault })
  | fail {i : Nat} {x : Writer} {w : Work} {fault : Fault} (hx : l.writers[i]? = some x)
      (hs : x.stage = .holding w) :
      Move b l (.fail i fault) (l.put i { x with stage := .failed fault })
  | confirm {i : Nat} {x : Writer} {w : Work} (hx : l.writers[i]? = some x)
      (hs : x.stage = .applied w) :
      Move b l (.confirm i) ({ l with audit := l.audit.confirm w }.put i
        { x with stage := .idle, confirmed := x.confirmed + 1 })
  | close {i : Nat} {x : Writer} {fault : Fault} (hx : l.writers[i]? = some x)
      (hs : x.stage = .failed fault) :
      Move b l (.close i) (l.put i { x with stage := .closed fault })

/-- An action that is possible is done. -/
lemma Move.step_eq (hm : Move b l a l') : l.step b a = l' := by
  cases hm with
  | exhaust hd hnext => simp [step, dispatch, hd, hnext]
  | lose hd hnext hx hs => simp [step, dispatch, hd, hnext, stageOf_eq hx, hs]
  | @send w audit x hd hnext hx hs =>
    cases hstage : x.stage with
    | closed fault => exact absurd hstage (hs fault)
    | _ => simp [step, dispatch, hd, hnext, stageOf_eq hx, hstage, modify_writers hx, put]
  | take hx hs hw => simp [step, Load.take, modify_writers hx, hs, hw, put]
  | apply hx hs ha =>
    simp [step, Load.apply, stageOf_eq hx, hs, ha, setStage, modify_writers hx, put]
  | refuse hx hs ha =>
    simp [step, Load.apply, stageOf_eq hx, hs, ha, setStage, modify_writers hx, put]
  | fail hx hs => simp [step, Load.fail, stageOf_eq hx, hs, setStage, modify_writers hx, put]
  | confirm hx hs => simp [step, Load.confirm, stageOf_eq hx, hs, modify_writers hx, put]
  | close hx hs => simp [step, Load.close, stageOf_eq hx, hs, setStage, modify_writers hx, put]

lemma Move.step (hm : Move b l a l') : Move b l a (l.step b a) := by
  rw [hm.step_eq]
  exact hm

/-! ### Possible actions -/

lemma exists_dispatch (hpos : 0 < l.writers.size) (hd : l.dispatching = true) :
    ∃ l', Move b l .dispatch l' := by
  cases hnext : l.audit.next? with
  | none => exact ⟨_, .exhaust hd hnext⟩
  | some next =>
    obtain ⟨w, audit⟩ := next
    obtain ⟨x, hx⟩ := getElem?_writerOf hpos w
    by_cases hclosed : ∃ fault, x.stage = .closed fault
    · obtain ⟨fault, hs⟩ := hclosed
      exact ⟨_, .lose hd hnext hx hs⟩
    · exact ⟨_, .send hd hnext hx fun fault hs => hclosed ⟨fault, hs⟩⟩

lemma exists_apply {w : Work} (hx : l.writers[i]? = some x) (hs : x.stage = .holding w) :
    ∃ l', Move b l (.apply i) l' := by
  rcases ha : b.apply w l.store with ⟨fault | n, store⟩
  · exact ⟨_, .refuse hx hs ha⟩
  · exact ⟨_, .apply hx hs ha⟩

/-- An action that is not possible changes nothing. -/
lemma step_eq_or_move (hpos : 0 < l.writers.size) (a : Action) :
    l.step b a = l ∨ Move b l a (l.step b a) := by
  cases a with
  | dispatch =>
    by_cases hd : l.dispatching = true
    · obtain ⟨l', hm⟩ := exists_dispatch (b := b) hpos hd
      exact .inr hm.step
    · exact .inl (by simp [step, dispatch, hd])
  | take i =>
    by_cases hready : ∃ x w, l.writers[i]? = some x ∧ x.stage = .idle ∧ x.inbox[x.taken]? = some w
    · obtain ⟨x, w, hx, hs, hw⟩ := hready
      exact .inr (Move.take hx hs hw).step
    · left
      rw [step, take, modify_writers_eq_self]
      intro x hx
      split
      · next hs hw => exact absurd ⟨x, _, hx, hs, hw⟩ hready
      · rfl
  | apply i =>
    cases hx : l.writers[i]? with
    | none => exact .inl (by simp [step, apply, stageOf_eq_idle hx])
    | some x =>
      cases hs : x.stage with
      | holding w =>
        obtain ⟨l', hm⟩ := exists_apply (b := b) hx hs
        exact .inr hm.step
      | _ => exact .inl (by simp [step, apply, stageOf_eq hx, hs])
  | fail i fault =>
    cases hx : l.writers[i]? with
    | none => exact .inl (by simp [step, fail, stageOf_eq_idle hx])
    | some x =>
      cases hs : x.stage with
      | holding w => exact .inr (Move.fail hx hs).step
      | _ => exact .inl (by simp [step, fail, stageOf_eq hx, hs])
  | confirm i =>
    cases hx : l.writers[i]? with
    | none => exact .inl (by simp [step, confirm, stageOf_eq_idle hx])
    | some x =>
      cases hs : x.stage with
      | applied w => exact .inr (Move.confirm hx hs).step
      | _ => exact .inl (by simp [step, confirm, stageOf_eq hx, hs])
  | close i =>
    cases hx : l.writers[i]? with
    | none => exact .inl (by simp [step, close, stageOf_eq_idle hx])
    | some x =>
      cases hs : x.stage with
      | failed fault => exact .inr (Move.close hx hs).step
      | _ => exact .inl (by simp [step, close, stageOf_eq hx, hs])

lemma Move.size_writers (hm : Move b l a l') : l'.writers.size = l.writers.size := by
  cases hm <;> simp

lemma Move.writerOf (hm : Move b l a l') : l'.writerOf = l.writerOf := by
  funext w
  rw [Load.writerOf, Load.writerOf, hm.size_writers]

end Load

end ShardedIndex
