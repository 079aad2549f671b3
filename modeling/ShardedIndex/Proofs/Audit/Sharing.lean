import Mathlib
import ShardedIndex.Audit.Sharing
import ShardedIndex.Proofs.Audit.Replay
import ShardedIndex.Proofs.Machine
import ShardedIndex.Proofs.Workload.Provenance

/-!
# A ledger under concurrent records

However records and readers are interleaved, the log only grows at its end and the known ids only
grow. The known ids are those of the adds whose call is done, so they lag behind the log by the
calls that are between their two halves, and by nothing else.
-/

namespace ShardedIndex

variable {id : DocumentId} {w : Work} {xs ys : List Entry}

/-! ### Calls -/

namespace Recording

/-- Whether the work of a call is in the log. -/
def isLogged : Recording → Bool
  | due _ => false
  | _     => true

@[simp] lemma work_appended (w : Work) : (appended w).work = w := by
  unfold appended
  split_ifs <;> rfl

@[simp] lemma isLogged_appended (w : Work) : (appended w).isLogged = true := by
  unfold appended
  split_ifs <;> rfl

/-- An add that was appended still has its id to register. -/
lemma appended_ne_done {v : Work} (hkind : v.kind = .add) : appended w ≠ done v := by
  unfold appended
  split_ifs with h
  · exact Recording.noConfusion
  · rintro ⟨⟩
    exact h hkind

end Recording

/-! ### Known ids and replays -/

namespace Ledger

lemma knows_append (l : Ledger) (w : Work) : (l.append w).knows id = l.knows id := rfl

lemma knows_learn_iff (l : Ledger) (w : Work) :
    (l.learn w).knows id = true ↔ l.knows id = true ∨ w.kind = .add ∧ w.id = id := by
  rw [knows, known_learn, knows]
  split_ifs with hkind <;> simp [hkind, or_comm]

end Ledger

lemma size_present_le {ids : Std.HashSet DocumentId} {x : Entry} (hx : x.1 ≠ .delete) :
    ids.size ≤ (present ids x).size := by
  obtain ⟨kind, id⟩ := x
  cases kind with
  | delete => exact absurd rfl hx
  | _ => exact Std.HashSet.size_le_size_insert

/-- Without deletes, further entries take no document away. -/
lemma replay_le_append (xs : List Entry) (hys : ∀ y ∈ ys, y.1 ≠ .delete) :
    replay xs ≤ replay (xs ++ ys) := by
  simp only [replay, List.foldl_append]
  generalize xs.foldl present ∅ = ids
  induction ys generalizing ids with
  | nil => exact le_rfl
  | cons y ys ih =>
    calc ids.size
        ≤ (present ids y).size := size_present_le (hys y List.mem_cons_self)
      _ ≤ ((y :: ys).foldl present ids).size :=
          ih (fun z hz => hys z (List.mem_cons_of_mem _ hz)) _

namespace SharedLedger

variable {s s' : SharedLedger} {a : Action} {i j : Nat} {call call' : Recording}
  {works : Array Work} {front : List Nat}

/-! ### Moves -/

@[simp] lemma ledger_put (s : SharedLedger) (i : Nat) (call : Recording) :
    (s.put i call).ledger = s.ledger := rfl

@[simp] lemma copies_put (s : SharedLedger) (i : Nat) (call : Recording) :
    (s.put i call).copies = s.copies := rfl

lemma getElem?_put (hi : s.calls[i]? = some call) (l : Ledger) :
    ({ s with ledger := l }.put i call').calls[j]? =
      if i = j then some call' else s.calls[j]? :=
  Machine.getElem?_setIfInBounds hi

/-- The log, in order. -/
def log (s : SharedLedger) : List Work := s.ledger.works.toList

/-- The call that a step appends for, if it does. -/
def author? (s : SharedLedger) : Action → Option Nat
  | .append i =>
    match s.calls[i]? with
    | some (.due _) => some i
    | _             => none
  | _         => none

/-- All that a step can do. -/
inductive Move (s : SharedLedger) : Action → SharedLedger → Prop
  /-- The step is not possible. -/
  | idle {a : Action} (hnone : s.author? a = none) : Move s a s
  | append {i : Nat} {w : Work} (hi : s.calls[i]? = some (.due w)) :
      Move s (.append i) ({ s with ledger := s.ledger.append w }.put i (.appended w))
  | learn {i : Nat} {w : Work} (hi : s.calls[i]? = some (.between w)) :
      Move s (.learn i) ({ s with ledger := s.ledger.learn w }.put i (.done w))
  | copy : Move s .copy { s with copies := s.copies.push s.entries }

lemma move_step (s : SharedLedger) (a : Action) : Move s a (s.step a) := by
  cases a with
  | append i =>
    simp only [step, append]
    split
    · next w hi => exact .append hi
    · next hdue => exact .idle (by simp only [author?])
  | learn i =>
    simp only [step, learn]
    split
    · next w hi => exact .learn hi
    · exact .idle rfl
  | copy => exact .copy

/-- What every step keeps, a run keeps. -/
lemma run_induction {P : SharedLedger → Prop} (hmove : ∀ {s a s'}, Move s a s' → P s → P s')
    (hs : P s) (schedule : List Action) : P (s.run schedule) :=
  Machine.run_induction (fun s a => hmove (move_step s a)) hs schedule

/-- A call that no other step comes between does the same as `Ledger.record`. -/
lemma run_append_learn (hi : s.calls[i]? = some (.due w)) :
    s.run [.append i, .learn i] = { s with ledger := s.ledger.record w }.put i (.done w) := by
  change (s.append i).learn i = _
  have happend : s.append i = { s with ledger := s.ledger.append w }.put i (.appended w) := by
    simp only [append, hi]
  have hput : (s.append i).calls[i]? = some (.appended w) := by
    rw [happend, getElem?_put hi, if_pos rfl]
  by_cases hkind : w.kind = .add
  · rw [Recording.appended, if_pos hkind] at hput
    simp only [learn, hput]
    simp [happend, put, Ledger.record]
  · rw [Recording.appended, if_neg hkind] at hput
    simp only [learn, hput]
    simp [happend, put, Ledger.record, Ledger.learn, Recording.appended, hkind]

/-! ### What stays -/

lemma log_append (s : SharedLedger) (i : Nat) (w : Work) (call : Recording) :
    ({ s with ledger := s.ledger.append w }.put i call).log = s.log ++ [w] := by
  simp [log]

lemma log_learn (s : SharedLedger) (i : Nat) (w : Work) (call : Recording) :
    ({ s with ledger := s.ledger.learn w }.put i call).log = s.log := by
  simp [log]

lemma Move.log_extends (hm : Move s a s') : s.log <+: s'.log := by
  cases hm with
  | idle | copy => exact List.prefix_rfl
  | append => rw [log_append]; exact List.prefix_append _ _
  | learn => rw [log_learn]

lemma Move.knows (hm : Move s a s') (hid : s.ledger.knows id = true) :
    s'.ledger.knows id = true := by
  cases hm with
  | learn => exact (Ledger.knows_learn_iff _ _).2 (.inl hid)
  | _ => exact hid

/-! ### Calls and the log -/

/-- The calls that appended their works along a schedule, in order. -/
def authors (s : SharedLedger) (schedule : List Action) : List Nat :=
  Machine.observe step author? s schedule

/-- The work of a call is in the log. -/
def Logged (s : SharedLedger) (i : Nat) : Prop :=
  ∃ call, s.calls[i]? = some call ∧ call.isLogged = true

/-- Each entry of the log belongs to one call that has appended its work, and the known ids are
those of the adds whose call is done. -/
structure Attributed (works : Array Work) (s : SharedLedger) (authors : List Nat) : Prop where
  calls : s.calls.map Recording.work = works
  nodup : authors.Nodup
  log : s.log.map some = authors.map (works[·]?)
  mem_iff : ∀ {i : Nat}, i ∈ authors ↔ s.Logged i
  known : ∀ {id : DocumentId}, s.ledger.knows id = true ↔
    ∃ (i : Nat) (w : Work), s.calls[i]? = some (.done w) ∧ w.kind = .add ∧ w.id = id

lemma author?_append (hi : s.calls[i]? = some (.due w)) : s.author? (.append i) = some i := by
  simp only [author?, hi]

lemma map_work_put (hi : s.calls[i]? = some call) (hwork : call'.work = call.work) (l : Ledger) :
    ({ s with ledger := l }.put i call').calls.map Recording.work =
      s.calls.map Recording.work :=
  Machine.map_setIfInBounds hi hwork

lemma logged_put_iff (hi : s.calls[i]? = some call) (hlogged : call'.isLogged = true)
    (l : Ledger) : ({ s with ledger := l }.put i call').Logged j ↔ i = j ∨ s.Logged j := by
  simp only [Logged, getElem?_put hi]
  split_ifs with hij <;> simp [hij, hlogged]

/-- A call that was not done is done afterwards if it was put there so. -/
lemma done_put_iff {v : Work} (hi : s.calls[i]? = some call) (hcall : ∀ v, call ≠ .done v)
    (l : Ledger) : ({ s with ledger := l }.put i call').calls[j]? = some (.done v) ↔
      i = j ∧ call' = .done v ∨ s.calls[j]? = some (.done v) := by
  rw [getElem?_put hi]
  split_ifs with hij
  · subst hij
    simp [hi, hcall]
  · simp [hij]

lemma attributed_start (works : Array Work) : (start works).Attributed works [] := by
  have hdue {i : Nat} {call : Recording} (hi : (start works).calls[i]? = some call) :
      ∃ w, call = .due w := by
    rw [start, Array.getElem?_map] at hi
    obtain ⟨w, -, rfl⟩ := Option.map_eq_some_iff.1 hi
    exact ⟨w, rfl⟩
  refine ⟨by simp [start, Function.comp_def, Recording.work], List.nodup_nil, rfl, ?_, ?_⟩
  · intro i
    refine iff_of_false List.not_mem_nil ?_
    rintro ⟨call, hi, hlogged⟩
    obtain ⟨w, rfl⟩ := hdue hi
    cases hlogged
  · intro id
    refine iff_of_false (by simp [start, Ledger.knows, Ledger.empty]) ?_
    rintro ⟨i, w, hi, -⟩
    obtain ⟨_, heq⟩ := hdue hi
    cases heq

lemma Attributed.append (hs : s.Attributed works front) (hi : s.calls[i]? = some (.due w)) :
    ({ s with ledger := s.ledger.append w }.put i (.appended w)).Attributed works
      (front ++ [i]) := by
  have hnew : i ∉ front := by
    intro hmem
    obtain ⟨call, hcall, hlogged⟩ := hs.mem_iff.1 hmem
    cases hi.symm.trans hcall
    cases hlogged
  have hwork : works[i]? = some w := by
    rw [← hs.calls, Array.getElem?_map, hi, Option.map_some, Recording.work]
  constructor
  · rw [map_work_put hi (Recording.work_appended w), hs.calls]
  · exact List.nodup_append_comm.1 (List.nodup_cons.2 ⟨hnew, hs.nodup⟩)
  · rw [log_append, List.map_append, List.map_append, hs.log, List.map_singleton,
      List.map_singleton, hwork]
  · intro j
    rw [logged_put_iff hi (Recording.isLogged_appended w), List.mem_append, List.mem_singleton,
      hs.mem_iff, or_comm, eq_comm]
  · intro id
    rw [ledger_put, Ledger.knows_append, hs.known]
    refine exists₂_congr fun j v => and_congr_left fun hv => ?_
    rw [done_put_iff hi fun _ => Recording.noConfusion,
      or_iff_right fun h => Recording.appended_ne_done hv.1 h.2]

lemma Attributed.learn (hs : s.Attributed works front) (hi : s.calls[i]? = some (.between w)) :
    ({ s with ledger := s.ledger.learn w }.put i (.done w)).Attributed works front := by
  have hlogged : s.Logged i := ⟨_, hi, rfl⟩
  have hwork : (Recording.done w).work = (Recording.between w).work := rfl
  constructor
  · rw [map_work_put hi hwork, hs.calls]
  · exact hs.nodup
  · rw [log_learn, hs.log]
  · intro j
    rw [logged_put_iff hi rfl, hs.mem_iff, or_iff_right_of_imp]
    rintro rfl
    exact hlogged
  · intro id
    rw [ledger_put, Ledger.knows_learn_iff, hs.known]
    simp only [done_put_iff hi fun _ => Recording.noConfusion]
    constructor
    · rintro (⟨j, v, hj, hv⟩ | hw)
      · exact ⟨j, v, .inr hj, hv⟩
      · exact ⟨i, w, .inl ⟨rfl, rfl⟩, hw⟩
    · rintro ⟨j, v, ⟨-, heq⟩ | hj, hv⟩
      · cases heq
        exact .inr hv
      · exact .inl ⟨j, v, hj, hv⟩

lemma Move.attributed (hm : Move s a s') (hs : s.Attributed works front) :
    s'.Attributed works (front ++ (s.author? a).toList) := by
  cases hm with
  | idle hnone => rwa [hnone, Option.toList_none, List.append_nil]
  | append hi => rw [author?_append hi, Option.toList_some]; exact hs.append hi
  | learn hi => simpa [author?] using hs.learn hi
  | copy => simpa [author?] using ⟨hs.calls, hs.nodup, hs.log, hs.mem_iff, hs.known⟩

lemma Attributed.run (hs : s.Attributed works front) (schedule : List Action) :
    (s.run schedule).Attributed works (front ++ s.authors schedule) :=
  Machine.observe_induction (P := Attributed works) (fun s a _ => (move_step s a).attributed) hs
    schedule

/-! ### Lag -/

/-- No call is between its two halves. -/
def IsQuiet (s : SharedLedger) : Prop := ∀ (i : Nat) (w : Work), s.calls[i]? ≠ some (.between w)

namespace Attributed

variable {authors : List Nat} {k : Nat}

/-- The work at a place of the log belongs to a call that has appended it. -/
lemma exists_author (hs : s.Attributed works authors) (hk : s.log[k]? = some w) :
    ∃ i, authors[k]? = some i ∧
      (s.calls[i]? = some (.between w) ∨ s.calls[i]? = some (.done w)) := by
  have hplace := congrArg (·[k]?) hs.log
  simp only [List.getElem?_map, hk, Option.map_some] at hplace
  obtain ⟨i, hi, hwork⟩ := Option.map_eq_some_iff.1 hplace.symm
  obtain ⟨call, hcall, hlogged⟩ := hs.mem_iff.1 (List.mem_of_getElem? hi)
  rw [← hs.calls, Array.getElem?_map, hcall, Option.map_some, Option.some_inj] at hwork
  refine ⟨i, hi, ?_⟩
  cases call with
  | due => cases hlogged
  | between v => exact .inl (hwork ▸ hcall)
  | done v => exact .inr (hwork ▸ hcall)

lemma mem_addedIds_of_knows (hs : s.Attributed works authors)
    (hid : s.ledger.knows id = true) : id ∈ addedIds s.log := by
  obtain ⟨i, w, hi, hkind, rfl⟩ := hs.known.1 hid
  have hauthor : i ∈ authors := hs.mem_iff.2 ⟨_, hi, rfl⟩
  have hwork : works[i]? = some w := by
    rw [← hs.calls, Array.getElem?_map, hi, Option.map_some, Recording.work]
  have hmem : some w ∈ s.log.map some := by
    rw [hs.log, List.mem_map]
    exact ⟨i, hauthor, hwork⟩
  exact mem_addedIds.2 ⟨w, by simpa using hmem, hkind, rfl⟩

/-- An id that is missing is only that of calls which are still to register it. -/
lemma between_of_not_knows (hs : s.Attributed works authors) (hid : s.ledger.knows id = false)
    (hk : s.log[k]? = some w) (hkind : w.kind = .add) (hw : w.id = id) :
    ∃ i, authors[k]? = some i ∧ s.calls[i]? = some (.between w) := by
  obtain ⟨i, hi, hbetween | hdone⟩ := hs.exists_author hk
  · exact ⟨i, hi, hbetween⟩
  · rw [hs.known.2 ⟨i, w, hdone, hkind, hw⟩] at hid
    cases hid

lemma knows_iff_of_isQuiet (hs : s.Attributed works authors) (hquiet : s.IsQuiet) :
    s.ledger.knows id = true ↔ id ∈ addedIds s.log := by
  refine ⟨hs.mem_addedIds_of_knows, fun hid => ?_⟩
  by_contra hnot
  obtain ⟨w, hw, hkind, rfl⟩ := mem_addedIds.1 hid
  obtain ⟨k, hk⟩ := List.mem_iff_getElem?.1 hw
  obtain ⟨i, -, hbetween⟩ := hs.between_of_not_knows (Bool.eq_false_iff.2 hnot) hk hkind rfl
  exact hquiet i w hbetween

end Attributed

/-! ### Readers -/

/-- The copies that readers took are first parts of the log, each one of the next. -/
structure Copied (s : SharedLedger) : Prop where
  log : ∀ c ∈ s.copies, c <+: s.entries
  next : s.copies.toList.Pairwise (· <+: ·)

lemma copied_start (works : Array Work) : (start works).Copied :=
  ⟨fun c hc => by simp [start] at hc, List.Pairwise.nil⟩

lemma Move.entries_extends (hm : Move s a s') : s.entries <+: s'.entries :=
  hm.log_extends.map Work.entry

lemma Move.copied (hm : Move s a s') (hs : s.Copied) : s'.Copied := by
  have hextends := hm.entries_extends
  have hkeep {s' : SharedLedger} (hcopies : s'.copies = s.copies)
      (hextends : s.entries <+: s'.entries) : s'.Copied :=
    ⟨fun c hc => (hs.log c (hcopies ▸ hc)).trans hextends, hcopies ▸ hs.next⟩
  cases hm with
  | idle => exact hs
  | append | learn => exact hkeep rfl hextends
  | copy =>
    refine ⟨fun c hc => ?_, ?_⟩
    · rcases Array.mem_push.1 hc with hold | rfl
      · exact hs.log c hold
      · exact List.prefix_rfl
    · rw [Array.toList_push, List.pairwise_append]
      refine ⟨hs.next, List.pairwise_singleton _ _, fun c hc d hd => ?_⟩
      rw [List.mem_singleton.1 hd]
      exact hs.log c (Array.mem_toList_iff.1 hc)

/-- While no delete is recorded, the expected size does not fall. -/
lemma replay_le_of_extends {c d : List Entry} (hextends : c <+: d)
    (hadds : ∀ x ∈ d.drop c.length, x.1 ≠ .delete) : replay c ≤ replay d := by
  obtain ⟨rest, rfl⟩ := hextends
  rw [List.drop_left] at hadds
  exact replay_le_append c hadds

/-! ### Runs -/

/-- However the halves of any records are interleaved with each other and with readers: the log
holds the works of the calls that appended, each call once, and grows only at its end. The known ids
only grow and are ids of adds in the log; when one is missing, each of its adds in the log belongs
to a call that is between its halves. So the known ids are all of them when no call is there. What a
reader expects is the replay of a first part of the log, and it does not fall from one reader to a
later one while no delete is recorded. -/
theorem consistent_at_all_times (works : Array Work) (schedule later : List Action) :
    let s := (start works).run schedule
    let t := s.run later
    let authors := (start works).authors (schedule ++ later)
    (authors.Nodup ∧ (∀ i, i ∈ authors ↔ t.Logged i) ∧
        t.log.map some = authors.map (works[·]?) ∧ s.log <+: t.log) ∧
      (∀ id, s.ledger.knows id = true → t.ledger.knows id = true) ∧
      (∀ id, t.ledger.knows id = true → id ∈ addedIds t.log) ∧
      (∀ id, t.ledger.knows id = false →
        ∀ (k : Nat) (w : Work), t.log[k]? = some w → w.kind = .add → w.id = id →
          ∃ i : Nat, authors[k]? = some i ∧ t.calls[i]? = some (.between w)) ∧
      (t.IsQuiet → ∀ id, t.ledger.knows id = true ↔ id ∈ addedIds t.log) ∧
      s.ledger.replayedSize = replay ((t.log.take s.log.length).map Work.entry) ∧
      (∀ c ∈ t.copies, c <+: t.log.map Work.entry) ∧
      t.copies.toList.Pairwise fun c d =>
        c <+: d ∧ ((∀ x ∈ d.drop c.length, x.1 ≠ .delete) → replay c ≤ replay d) := by
  intro s t authors
  have ht : t = (start works).run (schedule ++ later) := (List.foldl_append ..).symm
  have hattributed : t.Attributed works authors :=
    ht ▸ (attributed_start works).run (schedule ++ later)
  have hcopied : t.Copied :=
    ht ▸ run_induction (fun hm hs => hm.copied hs) (copied_start works) _
  have hextends : s.log <+: t.log :=
    run_induction (P := fun t => s.log <+: t.log) (fun hm hs => hs.trans hm.log_extends)
      List.prefix_rfl later
  refine ⟨⟨hattributed.nodup, fun i => hattributed.mem_iff, hattributed.log, hextends⟩,
    fun id hid => ?_, fun id => hattributed.mem_addedIds_of_knows,
    fun id hid k w hk hkind hw => hattributed.between_of_not_knows hid hk hkind hw,
    fun hquiet id => hattributed.knows_iff_of_isQuiet hquiet, ?_, hcopied.log, ?_⟩
  · exact run_induction (P := fun t => t.ledger.knows id = true) (fun hm hs => hm.knows hs) hid
      later
  · rw [← List.prefix_iff_eq_take.1 hextends]
    rfl
  · exact hcopied.next.imp fun hextends => ⟨hextends, replay_le_of_extends hextends⟩

/-- Two adds of one document, and a delete of it. -/
def rivals : Array Work := #[.of .add ⟨1, "a"⟩, .of .add ⟨1, "b"⟩, .of .delete ⟨1, "c"⟩]

/-- While both adds are between their halves, the document is in the log and not known. In the end
it is known, though it was deleted. A reader copies the log after each add. -/
theorem consistent_at_all_times_rivals :
    let s := (start rivals).run [.append 1, .copy, .append 0, .copy]
    let t := s.run [.learn 0, .learn 1, .append 2]
    s.ledger.knows 1 = false ∧ s.log = [rivals[1], rivals[0]] ∧
      (∃ i : Nat, s.calls[i]? = some (.between rivals[1])) ∧
      (∃ i : Nat, s.calls[i]? = some (.between rivals[0])) ∧
      t.IsQuiet ∧ 1 ∈ addedIds t.log ∧ t.ledger.knows 1 = true ∧
      t.copies = #[[(.add, 1)], [(.add, 1), (.add, 1)]] ∧
      (∀ c ∈ t.copies, c <+: t.log.map Work.entry) ∧
      replay [(.add, 1)] ≤ replay [(.add, 1), (.add, 1)] := by
  intro s t
  have hs : s = ⟨⟨#[rivals[1], rivals[0]], ∅⟩,
      #[.between rivals[0], .between rivals[1], .due rivals[2]],
      #[[(.add, 1)], [(.add, 1), (.add, 1)]]⟩ := by
    simp [s, run, step, start, rivals, append, copy, put, Recording.appended, Ledger.append,
      Ledger.empty, Work.of, entries, Work.entry]
  have hlog : s.log = [rivals[1], rivals[0]] := by rw [hs, log]
  have hnot : s.ledger.knows 1 = false := by simp [hs, Ledger.knows]
  have hcalls : t.calls = #[.done rivals[0], .done rivals[1], .done rivals[2]] := by
    simp [t, hs, run, step, rivals, append, learn, put, Recording.appended, Work.of]
  have hcopies : t.copies = #[[(.add, 1)], [(.add, 1), (.add, 1)]] := by
    simp [t, hs, run, step, rivals, append, learn, put, Work.of]
  have hextends : s.log <+: t.log := run_induction (P := fun t => s.log <+: t.log)
    (fun hm hs => hs.trans hm.log_extends) List.prefix_rfl _
  have hquiet : t.IsQuiet := by
    intro i w hi
    have hmem := Array.mem_of_getElem? hi
    simp [hcalls] at hmem
  have hadded : 1 ∈ addedIds t.log := by
    refine mem_addedIds.2 ⟨rivals[0], hextends.subset ?_, rfl, rfl⟩
    simp [hlog]
  obtain ⟨-, -, -, hlag, -⟩ := consistent_at_all_times rivals
    [.append 1, .copy, .append 0, .copy] []
  obtain ⟨-, -, -, -, hknown, -, hcopied, hreadings⟩ := consistent_at_all_times rivals
    [.append 1, .copy, .append 0, .copy] [.learn 0, .learn 1, .append 2]
  have hmono : replay [(.add, 1)] ≤ replay [(.add, 1), (.add, 1)] := by
    rw [show t.copies.toList = _ from congrArg Array.toList hcopies, List.pairwise_pair]
      at hreadings
    exact hreadings.2 (by simp)
  obtain ⟨i, -, hi⟩ := hlag 1 hnot 0 rivals[1] (congrArg (·[0]?) hlog) rfl rfl
  obtain ⟨j, -, hj⟩ := hlag 1 hnot 1 rivals[0] (congrArg (·[1]?) hlog) rfl rfl
  exact ⟨hnot, hlog, ⟨i, hi⟩, ⟨j, hj⟩, hquiet, hadded, (hknown hquiet 1).2 hadded,
    hcopies, hcopied, hmono⟩

end SharedLedger

end ShardedIndex
