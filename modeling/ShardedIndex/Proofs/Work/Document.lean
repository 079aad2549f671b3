import ShardedIndex.Proofs.Json.Number
import ShardedIndex.Proofs.Work.Record

/-!
# Documents of a work

The forms of a work are the values that denote it. A text is read as a work when it spells one of
the forms of that work, and what is written is such a text. The near misses of a form, in which a
field is missing or repeated or an id is out of range or no plain number, are refused.
-/

namespace ShardedIndex

open Json Text

variable {v : Value} {text : String}

/-! ### Forms -/

/-- The form of an id: its decimal digits. -/
def idForm (id : DocumentId) : Value := .number (decimal id.toNat)

/-- The forms of a kind. -/
inductive WorkKind.IsForm : Value → WorkKind → Prop
  | text {kind : WorkKind} : IsForm (.string (some kind.tag)) kind
  | empty {kind : WorkKind} : IsForm (.object [(some kind.tag, .null)]) kind

/-- The forms of a quote: the records of its id and its text. -/
def Quote.IsForm (v : Value) (q : Quote) : Prop :=
  v.IsRecord fieldNames [idForm q.id, .string (some q.text)]

/-- The forms of a work: the records of a form of its kind, its id and a form of its payload. -/
inductive Work.IsForm : Value → Work → Prop
  | mk {v kind payload : Value} {w : Work} (hkind : w.kind.IsForm kind)
      (hpayload : w.payload.IsForm payload)
      (h : v.IsRecord fieldNames [kind, idForm w.id, payload]) : IsForm v w

/-! ### Near misses -/

/-- The numbers that are no id: those beyond 64 bits, and those with a sign, a fraction or an
exponent. -/
inductive IsNoId : Value → Prop
  | large {n : Nat} (hn : wordLimit ≤ n) : IsNoId (.number (decimal n))
  | marked {spelling : String} {c : Char} (hc : c ∈ ['-', '+', '.', 'e', 'E'])
      (hmem : c ∈ spelling.toList) : IsNoId (.number spelling)

/-- The near misses of a quote: a field is missing or repeated, or the id is none. -/
inductive Quote.IsNearMiss : Value → Prop
  | fields {v : Value} (h : v.Misfits Quote.fieldNames) : IsNearMiss v
  | id {v id text : Value} (h : v.IsRecord Quote.fieldNames [id, text]) (hid : IsNoId id) :
      IsNearMiss v

/-- The near misses of a work: a field is missing or repeated, the id is none, or the payload is a
near miss of a quote. -/
inductive Work.IsNearMiss : Value → Prop
  | fields {v : Value} (h : v.Misfits Work.fieldNames) : IsNearMiss v
  | id {v kind id payload : Value} (h : v.IsRecord Work.fieldNames [kind, id, payload])
      (hid : IsNoId id) : IsNearMiss v
  | payload {v kind id payload : Value} (h : v.IsRecord Work.fieldNames [kind, id, payload])
      (hpayload : Quote.IsNearMiss payload) : IsNearMiss v

/-! ### Reading ids and kinds -/

lemma readId?_idForm (id : DocumentId) : readId? (idForm id) = some id := by
  rw [readId?, idForm, Value.natural?, if_pos (isDigits_decimal _),
    readBelow_decimal id.toNat_lt, Option.map_some, UInt64.ofNat_toNat]

lemma readId?_eq_some_iff {id : DocumentId} (hv : IsSpelled v) :
    readId? v = some id ↔ v = idForm id := by
  constructor
  · intro h
    obtain ⟨n, hn, rfl⟩ := Option.map_eq_some_iff.1 h
    cases v with
    | number spelling =>
      rw [Value.natural?] at hn
      split_ifs at hn with hdigits
      obtain ⟨hdenotes, hlt⟩ := readBelow_eq_some_iff.1 hn
      obtain rfl := (denotes_digitsValue hdigits).unique hdenotes
      have hspelling := String.toList_inj.1 (hv.isNumber.eq_decimal hdigits)
      rw [idForm, UInt64.toNat_ofNat_of_lt' hlt, ← hspelling]
    | _ => cases hn
  · rintro rfl
    exact readId?_idForm id

lemma IsNoId.readId?_eq_none (h : IsNoId v) : readId? v = none := by
  rw [readId?, Option.map_eq_none_iff]
  cases h with
  | @large n hn =>
    rw [Value.natural?, if_pos (isDigits_decimal n), Option.eq_none_iff_forall_ne_some]
    intro m hm
    obtain ⟨hdenotes, hlt⟩ := readBelow_eq_some_iff.1 hm
    obtain rfl := hdenotes.unique (denotes_decimal n)
    omega
  | marked hc hmem =>
    rw [Value.natural?, if_neg]
    intro hdigits
    have hdigit := (isDigits_iff.1 hdigits).2 _ hmem
    fin_cases hc <;> cases hdigit

lemma WorkKind.ofTag?_eq_some_iff {kind : WorkKind} :
    ofTag? text = some kind ↔ text = kind.tag := by
  constructor
  · intro h
    have htag : kind.tag = text := by simpa using List.find?_some h
    exact htag.symm
  · rintro rfl
    exact ofTag?_tag kind

lemma WorkKind.read?_eq_some_iff {kind : WorkKind} : read? v = some kind ↔ kind.IsForm v := by
  constructor
  · intro h
    unfold read? at h
    split at h
    · obtain ⟨tag, rfl, htag⟩ := Option.bind_eq_some_iff.1 h
      rw [ofTag?_eq_some_iff.1 htag]
      exact .text
    · obtain ⟨tag, rfl, htag⟩ := Option.bind_eq_some_iff.1 h
      rw [ofTag?_eq_some_iff.1 htag]
      exact .empty
    · cases h
  · rintro (_ | _) <;> exact ofTag?_tag kind

lemma text?_eq_some_iff : v.text? = some text ↔ v = .string (some text) := by
  cases v <;> simp [Value.text?]

/-! ### Reading quotes and works -/

lemma Quote.nodup_fieldNames : fieldNames.Nodup := by decide

lemma Work.nodup_fieldNames : fieldNames.Nodup := by decide

lemma Quote.read?_of_isRecord {id text : Value} (h : v.IsRecord fieldNames [id, text]) :
    read? v = (readId? id).bind fun id => text.text?.map (Quote.mk id) := by
  simp only [read?, (Value.record?_eq_some_iff nodup_fieldNames).2 h]
  cases readId? id <;> cases text.text? <;> rfl

lemma Work.ofValue?_of_isRecord {kind id payload : Value}
    (h : v.IsRecord fieldNames [kind, id, payload]) : ofValue? v =
      (WorkKind.read? kind).bind fun kind => (readId? id).bind fun id =>
        (Quote.read? payload).map (Work.mk kind id) := by
  simp only [ofValue?, (Value.record?_eq_some_iff nodup_fieldNames).2 h]
  cases WorkKind.read? kind <;> cases readId? id <;> cases Quote.read? payload <;> rfl

lemma Quote.read?_eq_some_iff {q : Quote} (hv : IsSpelled v) : read? v = some q ↔ q.IsForm v := by
  constructor
  · intro h
    unfold read? at h
    split at h
    · next id text hrecord =>
      have hform := (Value.record?_eq_some_iff nodup_fieldNames).1 hrecord
      split at h
      · next hid htext =>
        cases h
        obtain rfl := (readId?_eq_some_iff (hform.isSpelled hv id (by simp))).1 hid
        obtain rfl := text?_eq_some_iff.1 htext
        exact hform
      · cases h
    · cases h
  · intro h
    rw [read?_of_isRecord h, readId?_idForm]
    rfl

lemma Work.ofValue?_eq_some_iff {w : Work} (hv : IsSpelled v) :
    ofValue? v = some w ↔ w.IsForm v := by
  constructor
  · intro h
    unfold ofValue? at h
    split at h
    · next kind id payload hrecord =>
      have hform := (Value.record?_eq_some_iff nodup_fieldNames).1 hrecord
      split at h
      · next hkind hid hpayload =>
        cases h
        obtain rfl := (readId?_eq_some_iff (hform.isSpelled hv id (by simp))).1 hid
        have hspelled := hform.isSpelled hv payload (by simp)
        exact .mk (WorkKind.read?_eq_some_iff.1 hkind)
          ((Quote.read?_eq_some_iff hspelled).1 hpayload) hform
      · cases h
    · cases h
  · rintro ⟨hkind, hpayload, hform⟩
    have hspelled := hform.isSpelled hv _
      (List.mem_cons_of_mem _ (List.mem_cons_of_mem _ List.mem_cons_self))
    rw [ofValue?_of_isRecord hform, WorkKind.read?_eq_some_iff.2 hkind, readId?_idForm,
      (Quote.read?_eq_some_iff hspelled).2 hpayload]
    rfl

lemma Quote.IsNearMiss.read?_eq_none (h : IsNearMiss v) : read? v = none := by
  cases h with
  | fields h => simp only [read?, h.record?_eq_none]
  | id h hid => rw [read?_of_isRecord h, hid.readId?_eq_none, Option.bind_none]

lemma Work.IsNearMiss.ofValue?_eq_none (h : IsNearMiss v) : ofValue? v = none := by
  cases h with
  | fields h => simp only [ofValue?, h.record?_eq_none]
  | id h hid =>
    rw [ofValue?_of_isRecord h, hid.readId?_eq_none]
    simp
  | payload h hpayload =>
    rw [ofValue?_of_isRecord h, hpayload.read?_eq_none]
    simp

/-! ### Reading documents -/

lemma Work.read?_eq_some_iff {w : Work} :
    read? text = some w ↔ ∃ v, IsJson text.toList v ∧ w.IsForm v := by
  rw [read?, Option.bind_eq_some_iff]
  constructor
  · rintro ⟨v, hv, hw⟩
    have hjson := ofChars?_eq_some_iff_isJson.1 hv
    exact ⟨v, hjson, (ofValue?_eq_some_iff hjson.isSpelled).1 hw⟩
  · rintro ⟨v, hjson, hw⟩
    exact ⟨v, ofChars?_eq_some_iff_isJson.2 hjson, (ofValue?_eq_some_iff hjson.isSpelled).2 hw⟩

lemma Work.IsNearMiss.read?_eq_none (h : IsNearMiss v) (hv : IsJson text.toList v) :
    read? text = none := by
  rw [Work.read?, ofChars?_eq_some_iff_isJson.2 hv, Option.bind_some, h.ofValue?_eq_none]

lemma Work.read?_eq_none_of_plus {front back : List Char} (h : LeadsToValue front) :
    read? (String.ofList (front ++ '+' :: back)) = none := by
  rw [Option.eq_none_iff_forall_ne_some]
  intro w hw
  obtain ⟨v, hv, -⟩ := read?_eq_some_iff.1 hw
  rw [String.toList_ofList] at hv
  exact h.not_isJson_plus hv

/-! ### Writing -/

lemma isText_idForm (id : DocumentId) : IsText (decimal id.toNat).toList (idForm id) := by
  simpa [idForm] using IsText.number (isNumber_decimal id.toNat)

lemma Quote.isText_fields {ids texts : List Char} {id text : Value} (hid : IsText ids id)
    (htext : IsText texts text) :
    IsText ("\x7b\"id\":".toList ++ ids ++ ",\"text\":".toList ++ texts ++ ['}'])
      (.object (Value.named fieldNames [id, text])) := by
  have hopen : "\x7b\"id\":".toList = '{' :: (quote "id".toList ++ [':']) := rfl
  have hnext : ",\"text\":".toList = ',' :: (quote "text".toList ++ [':']) := rfl
  have h : IsText _ (.object (Value.named fieldNames [id, text])) :=
    .object (.more (isKey_quote "id") hid.isJson (.one (isKey_quote "text") htext.isJson))
  rw [hopen, hnext]
  simpa only [List.append_assoc, List.cons_append, List.nil_append] using h

lemma Quote.isText_write (q : Quote) :
    IsText q.write (.object (Value.named fieldNames [idForm q.id, .string (some q.text)])) :=
  isText_fields (isText_idForm q.id) (isText_quote q.text)

lemma Work.isText_fields {kinds ids payloads : List Char} {kind id payload : Value}
    (hkind : IsText kinds kind) (hid : IsText ids id) (hpayload : IsText payloads payload) :
    IsText ("\x7b\"work_type\":".toList ++ kinds ++ ",\"id\":".toList ++ ids ++
        ",\"payload\":".toList ++ payloads ++ ['}'])
      (.object (Value.named fieldNames [kind, id, payload])) := by
  have hopen : "\x7b\"work_type\":".toList = '{' :: (quote "work_type".toList ++ [':']) := rfl
  have hid' : ",\"id\":".toList = ',' :: (quote "id".toList ++ [':']) := rfl
  have hpayload' : ",\"payload\":".toList = ',' :: (quote "payload".toList ++ [':']) := rfl
  have h : IsText _ (.object (Value.named fieldNames [kind, id, payload])) :=
    .object (.more (isKey_quote "work_type") hkind.isJson
      (.more (isKey_quote "id") hid.isJson (.one (isKey_quote "payload") hpayload.isJson)))
  rw [hopen, hid', hpayload']
  simpa only [List.append_assoc, List.cons_append, List.nil_append] using h

lemma Work.isText_write (w : Work) : ∃ payload, w.payload.IsForm payload ∧ IsText w.write.toList
    (.object (Value.named fieldNames [.string (some w.kind.tag), idForm w.id, payload])) := by
  have htext := isText_fields (isText_quote w.kind.tag) (isText_idForm w.id) w.payload.isText_write
  have hwrite : w.write.toList = _ := String.toList_ofList
  rw [← hwrite] at htext
  exact ⟨_, Value.isRecord_named rfl, htext⟩

lemma Work.read?_write (w : Work) : read? w.write = some w := by
  obtain ⟨payload, hpayload, htext⟩ := w.isText_write
  exact read?_eq_some_iff.2 ⟨_, htext.isJson, .mk .text hpayload (Value.isRecord_named rfl)⟩

/-! ### All forms -/

/-- What is written reads back, and so does every other text that spells a form of the work. A text
that spells a near miss is refused, as is one with a plus sign where a value is due. -/
theorem Work.reads_every_form :
    (∀ w : Work, read? w.write = some w) ∧
      (∀ text w, read? text = some w ↔ ∃ v, IsJson text.toList v ∧ w.IsForm v) ∧
      (∀ text v, IsJson text.toList v → IsNearMiss v → read? text = none) ∧
      ∀ front back, LeadsToValue front → read? (String.ofList (front ++ '+' :: back)) = none :=
  ⟨read?_write, fun _ _ => read?_eq_some_iff, fun _ _ hv h => h.read?_eq_none hv,
    fun _ _ => read?_eq_none_of_plus⟩

/-- The fields stand in another order with an unknown one between them, the kind is an object and
the payload an array. A second id is refused, and so is an id with a plus sign. -/
theorem Work.reads_every_form_shuffled :
    read? ("\x7b \"payload\":[7,\"\\u0061\"], \"note\":1e3, \"id\":8, " ++
        "\"work_type\":\x7b\"Update\":null\x7d\x7d") = some ⟨.update, 8, 7, "a"⟩ ∧
      read? "\x7b\"id\":8,\"work_type\":\"Add\",\"payload\":[7,\"\"],\"id\":8\x7d" = none ∧
      read? "[\"Add\",+8,[7,\"\"]]" = none := by
  obtain ⟨-, hforms, hmisses, hplus⟩ := reads_every_form
  refine ⟨(hforms _ _).2 ⟨.object [(some "payload", .array [.number "7", .string (some "a")]),
    (some "note", .number "1e3"), (some "id", .number "8"),
    (some "work_type", .object [(some "Update", .null)])], ?_, ?_⟩, ?_, ?_⟩
  · exact ofChars?_eq_some_iff_isJson.1 (by cbv)
  · exact .mk .empty (.array rfl) ((Value.record?_eq_some_iff nodup_fieldNames).1 (by rfl))
  · refine hmisses _ (.object [(some "id", .number "8"), (some "work_type", .string (some "Add")),
      (some "payload", .array [.number "7", .string (some "")]), (some "id", .number "8")]) ?_ ?_
    · exact ofChars?_eq_some_iff_isJson.1 (by cbv)
    · exact .fields (.object (List.mem_cons_of_mem _ List.mem_cons_self) (by decide))
  · have hfront : LeadsToValue ([] ++ '[' :: (quote "Add".toList ++ [','])) :=
      .item (.start isGap_nil) (.one (isText_quote "Add").isJson) isGap_nil
    have htext : "[\"Add\",+8,[7,\"\"]]" =
        String.ofList (([] ++ '[' :: (quote "Add".toList ++ [','])) ++
          '+' :: "8,[7,\"\"]]".toList) := by decide
    rw [htext]
    exact hplus _ _ hfront

end ShardedIndex
