import Mathlib
import ShardedIndex.Proofs.Binding.Holding

/-!
# Lost works

A ledger records a work that the engine never applied. The two counts tell of the loss exactly when
the work was the last one on its document and changed whether the document is there: any later work
on the document makes up for the loss, and a work that changes nothing but the text is not counted.
-/

namespace ShardedIndex

variable {ws front back : List Work} {w : Work} {id : DocumentId} {docs docs' : Documents}

/-! ### Presence -/

/-- A work changes whether its document is there. -/
inductive Work.Flips (w : Work) (before : List Work) : Prop
  /-- An add or update of a document that is absent. -/
  | appears (hkind : w.kind ≠ .delete) (habsent : ¬ IsPresent w.id before)
  /-- A delete of a document that is present. -/
  | vanishes (hkind : w.kind = .delete) (hpresent : IsPresent w.id before)

lemma Work.flips_iff : w.Flips ws ↔ w.outcome.isSome ≠ (contents ws)[w.id]?.isSome := by
  rw [ne_eq, Bool.eq_iff_iff, isSome_outcome_iff, ← isPresent_iff]
  constructor
  · rintro (⟨hkind, habsent⟩ | ⟨hkind, hpresent⟩) heq
    · exact habsent (heq.1 hkind)
    · exact heq.2 hpresent hkind
  · intro hne
    by_cases hkind : w.kind = .delete
    · exact .vanishes hkind (by tauto)
    · exact .appears hkind (by tauto)

/-! ### Documents that differ under one id -/

lemma card_erase_idsOf (docs : Documents) (id : DocumentId) :
    ((idsOf docs).erase id).card + docs[id]?.isSome.toNat = docs.size := by
  rw [← card_idsOf]
  cases hid : docs[id]?.isSome with
  | true => exact Finset.card_erase_add_one (mem_idsOf.2 hid)
  | false =>
    have hnot : id ∉ idsOf docs := fun hmem => by simp [mem_idsOf.1 hmem] at hid
    rw [Finset.erase_eq_of_notMem hnot, Bool.toNat_false, Nat.add_zero]

/-- The numbers of documents differ by what there is under that id. -/
lemma size_add_isSome (hsame : ∀ other, other ≠ id → docs[other]? = docs'[other]?) :
    docs.size + docs'[id]?.isSome.toNat = docs'.size + docs[id]?.isSome.toNat := by
  have herase : (idsOf docs).erase id = (idsOf docs').erase id := by
    ext other
    rw [Finset.mem_erase, Finset.mem_erase, mem_idsOf, mem_idsOf]
    exact and_congr_right fun hne => by rw [hsame other hne]
  rw [← card_erase_idsOf docs id, ← card_erase_idsOf docs' id, herase]
  omega

/-! ### Contents without one work -/

/-- The other documents do not miss the work. -/
lemma getElem?_contents_without_of_ne (hne : id ≠ w.id) :
    (contents (front ++ w :: back))[id]? = (contents (front ++ back))[id]? := by
  rw [getElem?_contents, getElem?_contents, worksOn_append, worksOn_append, worksOn_cons,
    worksOn_singleton, if_neg hne.symm, List.nil_append]

/-- A later work on the document makes up for the loss. -/
lemma contents_without_of_later (hlater : worksOn w.id back ≠ []) :
    contents (front ++ w :: back) = contents (front ++ back) := by
  apply Std.ExtTreeMap.ext_getElem?
  intro id
  by_cases hid : id = w.id
  · subst hid
    rw [getElem?_contents, getElem?_contents, worksOn_append, worksOn_append, worksOn_cons,
      List.getLast?_append_of_ne_nil _ hlater, List.getLast?_append_of_ne_nil _ (by simp [hlater]),
      List.getLast?_append_of_ne_nil _ hlater]
  · exact getElem?_contents_without_of_ne hid

/-- The last work on a document leaves its outcome there. -/
lemma getElem?_contents_of_last (front : List Work) (hlast : worksOn w.id back = []) :
    (contents (front ++ w :: back))[w.id]? = w.outcome ∧
      (contents (front ++ back))[w.id]? = (contents front)[w.id]? := by
  simp only [getElem?_contents, worksOn_append, worksOn_cons w.id w back, hlast, worksOn_singleton,
    if_true, List.append_nil, List.getLast?_concat, Option.bind_some, and_self]

/-- Without the last work on a document it is as the earlier works left it. -/
lemma size_contents_of_last (front : List Work) (hlast : worksOn w.id back = []) :
    (contents (front ++ w :: back)).size + (contents front)[w.id]?.isSome.toNat =
      (contents (front ++ back)).size + w.outcome.isSome.toNat := by
  obtain ⟨hwith, hwithout⟩ := getElem?_contents_of_last front hlast
  rw [← hwith, ← hwithout]
  exact size_add_isSome fun other hne => getElem?_contents_without_of_ne hne

/-- The numbers of documents with and without a work differ exactly when no work on its document
follows and it changes whether the document is there. -/
lemma size_contents_ne_iff :
    (contents (front ++ w :: back)).size ≠ (contents (front ++ back)).size ↔
      (∀ v ∈ back, v.id ≠ w.id) ∧ w.Flips front := by
  rw [← worksOn_eq_nil_iff, Work.flips_iff]
  by_cases hlast : worksOn w.id back = []
  · have hsize := size_contents_of_last front hlast
    rw [and_iff_right hlast]
    cases hafter : w.outcome.isSome <;> cases hbefore : (contents front)[w.id]?.isSome <;>
      simp [hafter, hbefore] at hsize ⊢ <;> omega
  · simp [hlast, contents_without_of_later hlast]

/-- Without a delete there is one document more, and without an add or update one less. -/
lemma size_contents_of_ne
    (hne : (contents (front ++ w :: back)).size ≠ (contents (front ++ back)).size) :
    if w.kind = .delete
    then (contents (front ++ back)).size = (contents (front ++ w :: back)).size + 1
    else (contents (front ++ w :: back)).size = (contents (front ++ back)).size + 1 := by
  obtain ⟨hlast, hflips⟩ := size_contents_ne_iff.1 hne
  have hsize := size_contents_of_last front (worksOn_eq_nil_iff.2 hlast)
  have hafter := w.isSome_outcome_iff
  cases hflips with
  | appears hkind habsent =>
    rw [isPresent_iff, Bool.not_eq_true] at habsent
    rw [hafter.2 hkind, habsent] at hsize
    rw [if_neg hkind]
    exact hsize
  | vanishes hkind hpresent =>
    have hnone : w.outcome.isSome = false := Bool.eq_false_iff.2 fun h => hafter.1 h hkind
    rw [hnone, isPresent_iff.1 hpresent] at hsize
    rw [if_pos hkind]
    exact hsize.symm

/-! ### Detection -/

/-- The engine applied all works but one to a fresh binding without an interceptor, and the ledger
recorded them all. The check finds a difference exactly when no later work is on the document of the
lost one and the lost one changed whether the document is there: an add or update of a document that
the works before it left absent, or a delete of one that they left present. The difference is one
document then, too few for a lost add or update and too many for a lost delete. -/
theorem lost_work_detected_iff {b : Binding} {s : Store} (hb : b.Fresh s) (ha : b.Accepts s)
    (hi : b.interceptor = none) {i : Nat} (hlt : i < ws.length) :
    let report := (Ledger.empty.recordAll ws).check
      (b.documentCount (b.applyAll s (ws.eraseIdx i)))
    (report.agrees = false ↔
        (∀ v ∈ ws.drop (i + 1), v.id ≠ ws[i].id) ∧ ws[i].Flips (ws.take i)) ∧
      (report.agrees = false →
        if ws[i].kind = .delete then report.observed = report.expected + 1
        else report.expected = report.observed + 1) := by
  intro report
  have hp := hb.partitioned
  have hholds : b.Holds (b.applyAll s (ws.eraseIdx i)) (contents (ws.eraseIdx i)) :=
    hp.holds_applyAll hi hb.livesIn hb.holds_empty (ha.admits hp _)
  have hwith : ws = ws.take i ++ ws[i] :: ws.drop (i + 1) := by
    rw [← List.drop_eq_getElem_cons hlt, List.take_append_drop]
  have hwithout : ws.eraseIdx i = ws.take i ++ ws.drop (i + 1) := List.eraseIdx_eq_take_drop_succ ..
  have hexpected : (Ledger.empty.recordAll ws).replayedSize =
      (contents (ws.take i ++ ws[i] :: ws.drop (i + 1))).size := by
    rw [← hwith, Ledger.replayedSize_recordAll_empty]
  have hobserved : b.documentCount (b.applyAll s (ws.eraseIdx i)) =
      (contents (ws.take i ++ ws.drop (i + 1))).size := by
    rw [hholds.documentCount hp, hwithout]
  have hreport : report = ⟨_, _⟩ := congrArg₂ Consistency.mk hexpected hobserved
  rw [hreport, Bool.eq_false_iff, ne_eq, Consistency.agrees_mk_iff]
  exact ⟨size_contents_ne_iff, size_contents_of_ne⟩

/-- Two documents, of which the first one is deleted and the second one updated. -/
def noted : List Work :=
  [.of .add ⟨1, "a"⟩, .of .add ⟨2, "b"⟩, .of .delete ⟨1, "a"⟩, .of .update ⟨2, "c"⟩]

/-- The delete is missed when it is lost; the update makes up for the add before it, and is not
missed itself. -/
theorem lost_work_detected_iff_noted :
    let b := Binding.pair none
    let report (i : Nat) := (Ledger.empty.recordAll noted).check
      (b.documentCount (b.applyAll .pair (noted.eraseIdx i)))
    b.Fresh .pair ∧ b.Accepts .pair ∧ (report 1).agrees = true ∧ (report 2).agrees = false ∧
      (report 2).observed = (report 2).expected + 1 ∧ (report 3).agrees = true := by
  intro b report
  have hb := Binding.fresh_pair none
  have ha := Binding.accepts_pair none
  have hpresent : IsPresent 1 (noted.take 2) := isPresent_iff.2 (by decide)
  have hthere : IsPresent 2 (noted.take 3) := isPresent_iff.2 (by decide)
  have hlost (i : Nat) (hlt : i < noted.length) := lost_work_detected_iff hb ha rfl hlt
  obtain ⟨hadd, -⟩ := hlost 1 (by decide)
  obtain ⟨hdelete, hmore⟩ := hlost 2 (by decide)
  obtain ⟨hupdate, -⟩ := hlost 3 (by decide)
  have hmissed : (report 2).agrees = false := hdelete.2 ⟨by decide, .vanishes rfl hpresent⟩
  refine ⟨hb, ha, eq_true_of_ne_false fun hnot => ?_, hmissed, hmore hmissed,
    eq_true_of_ne_false fun hnot => ?_⟩
  · exact absurd (hadd.1 hnot).1 (by decide)
  · cases (hupdate.1 hnot).2 with
    | appears _ habsent => exact habsent hthere
    | vanishes hkind => cases hkind

end ShardedIndex
