import Mathlib
import ShardedIndex.Proofs.Json.Document
import ShardedIndex.Work.Document

/-!
# Records

A record is an object that has each of its fields once, among others in any order, or an array of
the values of its fields. The reader of records accepts these values and gives those of the fields.
-/

namespace ShardedIndex.Json.Value

variable {name : String} {names : List String} {v : Value} {values : List Value}
  {fields unknown : List Field}

/-- The fields with these names and values. -/
def named (names : List String) (values : List Value) : List Field :=
  List.zipWith (fun name v => (some name, v)) names values

/-- The forms of a record with the fields `names`: an object with these fields and with others, in
any order, or an array of their values, in the order of the names. -/
inductive IsRecord (names : List String) : Value → List Value → Prop
  | object {fields unknown : List Field} {values : List Value}
      (hlen : values.length = names.length) (hfields : fields.Perm (named names values ++ unknown))
      (hunknown : ∀ f ∈ unknown, ∃ key, f.1 = some key ∧ key ∉ names) :
      IsRecord names (.object fields) values
  | array {values : List Value} (hlen : values.length = names.length) :
      IsRecord names (.array values) values

/-- The objects and arrays in which a field is missing or stands more than once. -/
inductive Misfits (names : List String) : Value → Prop
  | object {fields : List Field} {name : String} (hname : name ∈ names)
      (hcount : fields.countP (fun f => f.1 = some name) ≠ 1) : Misfits names (.object fields)
  | array {items : List Value} (hlen : items.length ≠ names.length) : Misfits names (.array items)

/-! ### Named fields -/

lemma exists_name_of_mem_named {f : Field} (hf : f ∈ named names values) :
    ∃ name ∈ names, f.1 = some name := by
  induction names generalizing values with
  | nil => cases hf
  | cons name names ih =>
    cases values with
    | nil => cases hf
    | cons v values =>
      rcases List.mem_cons.1 hf with rfl | hf
      · exact ⟨name, List.mem_cons_self, rfl⟩
      · obtain ⟨name', hname', hkey⟩ := ih hf
        exact ⟨name', List.mem_cons_of_mem _ hname', hkey⟩

lemma fst_ne_of_mem_named {f : Field} (hname : name ∉ names) (hf : f ∈ named names values) :
    f.1 ≠ some name := by
  obtain ⟨name', hname', hkey⟩ := exists_name_of_mem_named hf
  rw [hkey, Ne, Option.some_inj]
  rintro rfl
  exact hname hname'

lemma exists_mem_named (hlen : values.length = names.length) (hv : v ∈ values) :
    ∃ name, (some name, v) ∈ named names values := by
  induction names generalizing values with
  | nil =>
    rw [List.length_eq_zero_iff.1 hlen] at hv
    cases hv
  | cons name names ih =>
    obtain ⟨w, values, rfl⟩ := List.exists_cons_of_length_eq_add_one hlen
    rcases List.mem_cons.1 hv with rfl | hv
    · exact ⟨name, List.mem_cons_self⟩
    · obtain ⟨name', hname'⟩ := ih (by simpa using hlen) hv
      exact ⟨name', List.mem_cons_of_mem _ hname'⟩

/-! ### Fields of a name -/

lemma only?_eq_some_iff : only? name fields = some v ↔
    (fields.filter fun f => f.1 = some name) = [(some name, v)] := by
  unfold only?
  split
  · next key value heq =>
    have hkey : key = some name := by
      have hmem : (key, value) ∈ fields.filter fun f => f.1 = some name := by simp [heq]
      simpa using (List.mem_filter.1 hmem).2
    simp [heq, hkey]
  · next hne =>
    constructor
    · intro h
      cases h
    · exact fun h => absurd h (hne _ _)

/-- A name has one value when its field stands once. -/
lemma only?_eq_some_iff_perm : only? name fields = some v ↔
    ∃ others, fields.Perm ((some name, v) :: others) ∧ ∀ f ∈ others, f.1 ≠ some name := by
  rw [only?_eq_some_iff]
  constructor
  · intro h
    have hperm := List.filter_append_perm (fun f : Field => decide (f.1 = some name)) fields
    rw [h, List.singleton_append] at hperm
    refine ⟨_, hperm.symm, fun f hf => ?_⟩
    simpa using (List.mem_filter.1 hf).2
  · rintro ⟨others, hperm, hothers⟩
    rw [← List.perm_singleton]
    refine (hperm.filter _).trans ?_
    have hnil : (others.filter fun f => f.1 = some name) = [] := by
      rw [List.filter_eq_nil_iff]
      exact fun f hf => by simpa using hothers f hf
    rw [List.filter_cons_of_pos (by simp), hnil]

/-- The field of a name does not matter to another name. -/
lemma only?_of_perm_cons {name' : String} (hne : name ≠ name')
    (hperm : fields.Perm ((some name', v) :: unknown)) :
    only? name fields = only? name unknown := by
  have hfilter := hperm.filter fun f => f.1 = some name
  rw [List.filter_cons_of_neg (by simpa using Ne.symm hne)] at hfilter
  ext w
  rw [only?_eq_some_iff, only?_eq_some_iff, ← List.perm_singleton, ← List.perm_singleton]
  exact ⟨hfilter.symm.trans, hfilter.trans⟩

lemma mapM_only?_of_perm_cons (hname : name ∉ names)
    (hperm : fields.Perm ((some name, v) :: unknown)) :
    (names.mapM fun name => only? name fields) = names.mapM fun name => only? name unknown := by
  induction names with
  | nil => rfl
  | cons name' names ih =>
    rw [List.mapM_cons, List.mapM_cons,
      only?_of_perm_cons (Ne.symm (List.ne_of_not_mem_cons hname)) hperm,
      ih (List.not_mem_of_not_mem_cons hname)]

/-- Each name has one value when the fields are those of the names and others. -/
lemma mapM_only?_eq_some_iff (hnames : names.Nodup) :
    (names.mapM fun name => only? name fields) = some values ↔
      values.length = names.length ∧ ∃ unknown, fields.Perm (named names values ++ unknown) ∧
        ∀ f ∈ unknown, ∀ name ∈ names, f.1 ≠ some name := by
  induction names generalizing fields values with
  | nil =>
    cases values with
    | nil => simpa using ⟨fields, List.Perm.refl _⟩
    | cons v values => simp
  | cons name names ih =>
    obtain ⟨hname, hnames⟩ := List.nodup_cons.1 hnames
    constructor
    · intro h
      rw [List.mapM_cons] at h
      obtain ⟨v, hv, h⟩ := Option.bind_eq_some_iff.1 h
      obtain ⟨values, hvalues, h⟩ := Option.bind_eq_some_iff.1 h
      cases h
      obtain ⟨others, hperm, hothers⟩ := only?_eq_some_iff_perm.1 hv
      rw [mapM_only?_of_perm_cons hname hperm] at hvalues
      obtain ⟨hlen, unknown, hperm', hunknown⟩ := (ih hnames).1 hvalues
      refine ⟨by simp [hlen], unknown, hperm.trans (hperm'.cons _), fun f hf => ?_⟩
      refine List.forall_mem_cons.2 ⟨hothers f ?_, hunknown f hf⟩
      exact hperm'.mem_iff.2 (List.mem_append_right _ hf)
    · rintro ⟨hlen, unknown, hperm, hunknown⟩
      obtain ⟨v, values, rfl⟩ := List.exists_cons_of_length_eq_add_one hlen
      have hothers : ∀ f ∈ named names values ++ unknown, f.1 ≠ some name := by
        intro f hf
        rcases List.mem_append.1 hf with hf | hf
        · exact fst_ne_of_mem_named hname hf
        · exact hunknown f hf name List.mem_cons_self
      have hvalues : (names.mapM fun name => only? name fields) = some values := by
        rw [mapM_only?_of_perm_cons hname hperm, ih hnames]
        refine ⟨by simpa using hlen, unknown, List.Perm.refl _, fun f hf name' hname' => ?_⟩
        exact hunknown f hf name' (List.mem_cons_of_mem _ hname')
      rw [List.mapM_cons, only?_eq_some_iff_perm.2 ⟨_, hperm, hothers⟩, hvalues]
      rfl

lemma exists_only?_of_mapM (h : (names.mapM fun name => only? name fields) = some values)
    (hname : name ∈ names) : ∃ v, only? name fields = some v := by
  induction names generalizing values with
  | nil => cases hname
  | cons name' names ih =>
    rw [List.mapM_cons] at h
    obtain ⟨v, hv, h⟩ := Option.bind_eq_some_iff.1 h
    obtain ⟨values, hvalues, -⟩ := Option.bind_eq_some_iff.1 h
    rcases List.mem_cons.1 hname with rfl | hname
    · exact ⟨v, hv⟩
    · exact ih hvalues hname

/-! ### Records -/

/-- The reader of records gives the values of a record. -/
lemma record?_eq_some_iff (hnames : names.Nodup) :
    record? names v = some values ↔ IsRecord names v values := by
  constructor
  · intro h
    cases v with
    | array items =>
      rw [record?] at h
      split_ifs at h with hlen
      cases h
      exact .array hlen
    | object fields =>
      rw [record?] at h
      split_ifs at h with hkeys
      obtain ⟨hlen, unknown, hperm, hunknown⟩ := (mapM_only?_eq_some_iff hnames).1 h
      refine .object hlen hperm fun f hf => ?_
      have hsome := List.all_eq_true.1 hkeys f (hperm.mem_iff.2 (List.mem_append_right _ hf))
      obtain ⟨key, hkey⟩ := Option.isSome_iff_exists.1 hsome
      exact ⟨key, hkey, fun hmem => hunknown f hf key hmem hkey⟩
    | _ => cases h
  · intro h
    cases h with
    | @object fields unknown values hlen hperm hunknown =>
      have hkeys : (fields.all fun field => field.1.isSome) = true := by
        rw [List.all_eq_true]
        intro f hf
        rcases List.mem_append.1 (hperm.mem_iff.1 hf) with hf | hf
        · obtain ⟨name, -, hkey⟩ := exists_name_of_mem_named hf
          rw [hkey, Option.isSome_some]
        · obtain ⟨key, hkey, -⟩ := hunknown f hf
          rw [hkey, Option.isSome_some]
      rw [record?, if_pos hkeys, mapM_only?_eq_some_iff hnames]
      refine ⟨hlen, _, hperm, fun f hf name hname hkey => ?_⟩
      obtain ⟨key, hkey', hnot⟩ := hunknown f hf
      exact hnot (Option.some.inj (hkey'.symm.trans hkey) ▸ hname)
    | array hlen => rw [record?, if_pos hlen]

lemma isRecord_named (hlen : values.length = names.length) :
    IsRecord names (.object (named names values)) values := by
  have hperm : (named names values).Perm (named names values ++ []) := by rw [List.append_nil]
  exact .object hlen hperm fun f hf => absurd hf List.not_mem_nil

lemma IsRecord.isSpelled (h : IsRecord names v values) (hv : IsSpelled v) :
    ∀ w ∈ values, IsSpelled w := by
  cases h with
  | object hlen hperm =>
    intro w hw
    obtain ⟨name, hmem⟩ := exists_mem_named hlen hw
    exact hv.of_mem_object _ (hperm.mem_iff.2 (List.mem_append_left _ hmem))
  | array => exact hv.of_mem_array

lemma Misfits.record?_eq_none (h : Misfits names v) : record? names v = none := by
  rw [Option.eq_none_iff_forall_ne_some]
  intro values hvalues
  cases h with
  | object hname hcount =>
    rw [record?] at hvalues
    split_ifs at hvalues
    obtain ⟨v, hv⟩ := exists_only?_of_mapM hvalues hname
    rw [only?_eq_some_iff] at hv
    rw [List.countP_eq_length_filter, hv] at hcount
    exact hcount rfl
  | array hlen =>
    rw [record?, if_neg hlen] at hvalues
    cases hvalues

end ShardedIndex.Json.Value
