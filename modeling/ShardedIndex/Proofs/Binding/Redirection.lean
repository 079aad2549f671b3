import Mathlib
import ShardedIndex.Proofs.Binding.Neighbours

/-!
# Works on another document

An apply touches the documents of a single id. It is the id of the work, unless an interceptor makes
the work an update or a delete of its quote: then it is the id that the quote carries. So a work
whose quote carries another id may be redirected, and the document of its own id stays as it is.
-/

namespace ShardedIndex

/-- The document that a work is for after a verdict. -/
def Verdict.subject : Verdict → Work → DocumentId
  | keep, w | skip, w     => w.id
  | update, w | remove, w => w.payload.id

lemma Verdict.subject_ne_iff (verdict : Verdict) (w : Work) : verdict.subject w ≠ w.id ↔
    (verdict = .update ∨ verdict = .remove) ∧ w.payload.id ≠ w.id := by
  cases verdict <;> simp [subject]

lemma Verdict.id_of_revise {verdict : Verdict} {w v : Work} (hv : verdict.revise w = some v) :
    v.id = verdict.subject w := by
  cases verdict <;> cases hv <;> rfl

/-- A write touches the documents of one id. -/
lemma Store.getElem?_documents_write {s : Store} {w : Work} {id : DocumentId} (hne : id ≠ w.id)
    (h h' : Handle) : ((s.write h w).documents h')[id]? = (s.documents h')[id]? := by
  by_cases hlt : h < s.size
  · rw [Store.documents_write hlt]
    split_ifs
    · rw [Work.getElem?_applyTo, if_neg hne.symm]
    · rfl
  · have hsame : s.write h w = s := dif_neg hlt
    rw [hsame]

namespace Binding

variable {b : Binding} {s : Store} {w v : Work} {id other : DocumentId} {shard : Nat}
  {routed : List (Nat × Work)}

/-- The document that an apply is for. -/
def subject (b : Binding) (w : Work) : DocumentId :=
  (Interceptor.verdict b.interceptor w).subject w

lemma id_of_intercept_eq_subject (hv : b.intercept w = some v) : v.id = b.subject w := by
  rw [intercept_eq_revise] at hv
  exact Verdict.id_of_revise hv

lemma id_of_mem_route (hv : (shard, v) ∈ b.route w) : v.id = b.subject w := by
  unfold route at hv
  cases hu : b.intercept w with
  | none => simp [hu] at hv
  | some u =>
    simp only [hu, List.mem_map, Prod.mk.injEq] at hv
    obtain ⟨-, -, -, rfl⟩ := hv
    exact id_of_intercept_eq_subject hu

/-- A delivery of works on one document touches no other document. -/
lemma getElem?_documents_deliver (hrouted : ∀ shard v, (shard, v) ∈ routed → v.id = other)
    (hne : id ≠ other) (h : Handle) :
    ((b.deliver routed s).2.documents h)[id]? = (s.documents h)[id]? := by
  induction routed generalizing s with
  | nil => rfl
  | cons first rest ih =>
    obtain ⟨shard, v⟩ := first
    cases hshard : b.indexes[shard]? with
    | none => simp [deliver, hshard]
    | some h' =>
      cases hf : s.refusal? h' v with
      | some fault => simp [deliver, hshard, hf]
      | none =>
        have hid : id ≠ v.id := hrouted shard v List.mem_cons_self ▸ hne
        simp only [deliver, hshard, hf]
        rw [ih fun shard u hu => hrouted shard u (List.mem_cons_of_mem _ hu),
          Store.getElem?_documents_write hid]

lemma snd_apply : (b.apply w s).2 = (b.deliver (b.route w) s).2 := by
  rcases hd : b.deliver (b.route w) s with ⟨_ | _, s'⟩ <;> simp [apply, hd]

lemma getElem?_documents_apply (hne : id ≠ b.subject w) (h : Handle) :
    ((b.apply w s).2.documents h)[id]? = (s.documents h)[id]? := by
  rw [snd_apply]
  exact getElem?_documents_deliver (fun _ _ hv => id_of_mem_route hv) hne h

/-- The works that are sent name the document of the work exactly when that is the one the apply is
for, since a work that is not dropped goes to a shard. -/
lemma Partitioned.route_names_iff (hp : b.Partitioned) :
    (∀ shard v, (shard, v) ∈ b.route w → v.id = w.id) ↔ b.subject w = w.id := by
  constructor
  · intro hnames
    cases hv : b.intercept w with
    | none =>
      rw [subject, (b.intercept_eq_none_iff w).1 hv]
      rfl
    | some v =>
      have hmem : (b.home v.id, v) ∈ b.route w := by
        rw [hp.route_eq hv]
        exact List.mem_singleton_self _
      rw [← id_of_intercept_eq_subject hv]
      exact hnames _ v hmem
  · intro hsubject shard v hv
    rw [id_of_mem_route hv, hsubject]

/-- A work that is applied leaves its outcome in the home of its document. -/
lemma Partitioned.getElem?_documents_home (hp : b.Partitioned) (hl : b.LivesIn s) {n : Nat}
    (hv : b.intercept w = some v) (hok : (b.apply w s).1 = .ok n) :
    (b.documents (b.apply w s).2 (b.home v.id))[v.id]? = v.outcome := by
  rw [hp.documents_apply hl hv hok, if_pos rfl, Work.getElem?_applyTo, if_pos rfl]

/-- An apply to a binding with a built-in strategy and any interceptor. Whatever comes of it, the
works that are sent name one document, and no index has another document changed. It is the document
that the work names, unless the verdict makes the work an update or a delete of a quote that carries
another id. Then the work goes to the document of the quote and leaves its outcome there, if it is
not refused. -/
theorem subject_only (hb : b.BuiltIn s) (w : Work) :
    let verdict := Interceptor.verdict b.interceptor w
    let s' := (b.apply w s).2
    (∀ shard v, (shard, v) ∈ b.route w → v.id = b.subject w) ∧
      (∀ h id, id ≠ b.subject w → (s'.documents h)[id]? = (s.documents h)[id]?) ∧
      ((∀ shard v, (shard, v) ∈ b.route w → v.id = w.id) ↔ b.subject w = w.id) ∧
      (b.subject w ≠ w.id ↔
        (verdict = .update ∨ verdict = .remove) ∧ w.payload.id ≠ w.id) ∧
      ∀ v n, b.intercept w = some v → (b.apply w s).1 = .ok n →
        (b.documents s' (b.home (b.subject w)))[b.subject w]? = v.outcome := by
  intro verdict s'
  have hp := hb.partitioned
  refine ⟨fun shard v => id_of_mem_route, fun h id hne => getElem?_documents_apply hne h,
    hp.route_names_iff, Verdict.subject_ne_iff verdict w, fun v n hv hok => ?_⟩
  rw [← id_of_intercept_eq_subject hv]
  exact hp.getElem?_documents_home hb.livesIn hv hok

/-! ### A misaddressed update -/

/-- Updates become deletes. -/
def removing : Interceptor := fun w => if w.kind = .update then .remove else .keep

/-- An update of document one with a quote of document two. -/
def misaddressed : Work := ⟨.update, 1, ⟨2, "b"⟩⟩

/-- Two shards with document two. -/
def withSecond : Store := ((pair (some removing)).apply (.of .add ⟨2, "a"⟩) .pair).2

lemma builtIn_pair {interceptor : Option Interceptor} (hsize : 2 ≤ s.size) :
    (pair interceptor).BuiltIn s :=
  .bind .empty Catalog.resolve_idHash .idHash (Layout.bind_pair interceptor) hsize

theorem subject_only_removing :
    let b := pair (some removing)
    let s' := (b.apply misaddressed withSecond).2
    b.BuiltIn withSecond ∧ (b.documents withSecond (b.home 2))[(2 : DocumentId)]? = some ⟨2, "a"⟩ ∧
      (∀ shard v, (shard, v) ∈ b.route misaddressed → v.id = 2) ∧
      (∀ h (id : DocumentId), id ≠ 2 → (s'.documents h)[id]? = (withSecond.documents h)[id]?) ∧
      (b.documents s' (b.home 2))[(2 : DocumentId)]? = none := by
  intro b s'
  have hb : b.BuiltIn withSecond := builtIn_pair (by decide +kernel)
  have hok : (b.apply misaddressed withSecond).1 = .ok 1 := by decide +kernel
  obtain ⟨hroute, hframe, -, -, houtcome⟩ := subject_only hb misaddressed
  exact ⟨hb, by decide +kernel, hroute, hframe, houtcome (.of .delete ⟨2, "b"⟩) 1 rfl hok⟩

/-- A work may delete a document that it does not name. -/
theorem not_always_own_document :
    ¬ ∀ (b : Binding) (s : Store) (w : Work), b.BuiltIn s →
      (∀ shard v, (shard, v) ∈ b.route w → v.id = w.id) ∧
        ∀ h ∈ b.indexes, ∀ id, id ≠ w.id →
          ((b.apply w s).2.documents h)[id]? = (s.documents h)[id]? := by
  intro hown
  obtain ⟨-, hframe⟩ := hown (pair (some removing)) withSecond misaddressed
    (builtIn_pair (by decide +kernel))
  have hsame := hframe 1 (by simp [pair]) 2 (by decide)
  revert hsame
  decide +kernel

end Binding

end ShardedIndex
