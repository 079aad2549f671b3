import ShardedIndex.Proofs.Json.Number
import ShardedIndex.Proofs.Json.Token
import ShardedIndex.Proofs.Json.Value

/-!
# Documents of a value

The texts of a value are described character by character, with gaps wherever the format allows
them. The reader of values accepts these texts and no other, and none of them has a plus sign where
a value is due.
-/

namespace ShardedIndex.Json

variable {cs gap front before key rest : List Char} {t : Token} {ts : List Token} {v : Value}
  {k : Content}

/-! ### Rules -/

/-- A key with gaps around it. -/
inductive IsKey : List Char → Content → Prop
  | mk {before cs after : List Char} {k : Content} (hbefore : IsGap before) (h : IsString cs k)
      (hafter : IsGap after) : IsKey (before ++ cs ++ after) k

mutual

/-- The texts of a value, from its first character to its last one. -/
inductive IsText : List Char → Value → Prop
  | null : IsText "null".toList .null
  | yes : IsText "true".toList (.bool true)
  | no : IsText "false".toList (.bool false)
  | number {cs : List Char} (h : IsNumber cs) : IsText cs (.number (String.ofList cs))
  | string {cs : List Char} {content : Content} (h : IsString cs content) :
      IsText cs (.string content)
  | emptyArray {gap : List Char} (hgap : IsGap gap) : IsText ('[' :: gap ++ [']']) (.array [])
  | array {cs : List Char} {vs : List Value} (h : AreItems cs vs) :
      IsText ('[' :: cs ++ [']']) (.array vs)
  | emptyObject {gap : List Char} (hgap : IsGap gap) : IsText ('{' :: gap ++ ['}']) (.object [])
  | object {cs : List Char} {fs : List (Content × Value)} (h : AreFields cs fs) :
      IsText ('{' :: cs ++ ['}']) (.object fs)

/-- The texts of a value with gaps around it. -/
inductive IsJson : List Char → Value → Prop
  | mk {before cs after : List Char} {v : Value} (hbefore : IsGap before) (h : IsText cs v)
      (hafter : IsGap after) : IsJson (before ++ cs ++ after) v

/-- Values with a comma between them. -/
inductive AreItems : List Char → List Value → Prop
  | one {cs : List Char} {v : Value} (h : IsJson cs v) : AreItems cs [v]
  | more {front back : List Char} {v : Value} {vs : List Value} (hfront : IsJson front v)
      (hback : AreItems back vs) : AreItems (front ++ ',' :: back) (v :: vs)

/-- Fields with a comma between them: a key, a colon and a value each. -/
inductive AreFields : List Char → List (Content × Value) → Prop
  | one {key cs : List Char} {k : Content} {v : Value} (hkey : IsKey key k) (h : IsJson cs v) :
      AreFields (key ++ ':' :: cs) [(k, v)]
  | more {key front back : List Char} {k : Content} {v : Value} {fs : List (Content × Value)}
      (hkey : IsKey key k) (hfront : IsJson front v) (hback : AreFields back fs) :
      AreFields (key ++ ':' :: (front ++ ',' :: back)) ((k, v) :: fs)

end

/-! ### The tokens of a text -/

/-- The tokens of values with a comma between them. -/
def itemsTokens : List Value → List Token
  | []      => []
  | v :: vs => v.tokens ++ Value.moreItems vs

/-- The tokens of fields with a comma between them. -/
def fieldsTokens : List (Content × Value) → List Token
  | []           => []
  | (k, v) :: fs => .string k :: .colon :: v.tokens ++ Value.moreFields fs

lemma tokens_array_items (vs : List Value) :
    (Value.array vs).tokens = .openArray :: itemsTokens vs ++ [.closeArray] := by
  cases vs <;> simp [Value.tokens, itemsTokens]

lemma tokens_object_fields (fs : List (Content × Value)) :
    (Value.object fs).tokens = .openObject :: fieldsTokens fs ++ [.closeObject] := by
  obtain _ | ⟨⟨k, v⟩, fs⟩ := fs <;> simp [Value.tokens, fieldsTokens]

lemma AreItems.moreItems_eq {vs : List Value} (h : AreItems cs vs) :
    Value.moreItems vs = .comma :: itemsTokens vs := by
  cases h <;> rfl

lemma AreFields.moreFields_eq {fs : List (Content × Value)} (h : AreFields cs fs) :
    Value.moreFields fs = .comma :: fieldsTokens fs := by
  cases h <;> rfl

lemma EndsNumber.gap_append (hgap : IsGap gap) (hrest : EndsNumber rest) :
    EndsNumber (gap ++ rest) := by
  cases gap with
  | nil => exact hrest
  | cons c gap =>
    rintro _ ⟨⟩
    rcases hgap c List.mem_cons_self with rfl | rfl | rfl | rfl <;> decide

lemma endsNumber_mark_cons {mark : Char} (hmark : (mark, t) ∈ marks) :
    EndsNumber (mark :: rest) := by
  rintro _ ⟨⟩
  simp only [marks, List.mem_cons, Prod.mk.injEq, List.not_mem_nil, or_false] at hmark
  rcases hmark with ⟨rfl, -⟩ | ⟨rfl, -⟩ | ⟨rfl, -⟩ | ⟨rfl, -⟩ | ⟨rfl, -⟩ | ⟨rfl, -⟩ <;> decide

lemma tokens?_key_append (h : IsKey key k) :
    tokens? (key ++ rest) = (tokens? rest).map (.string k :: ·) := by
  obtain ⟨hbefore, h, hafter⟩ := h
  rw [List.append_assoc, List.append_assoc, tokens?_gap_append hbefore,
    tokens?_of_token? (token?_eq_content_iff.2 ⟨_, h, rfl⟩), tokens?_gap_append hafter]

mutual

/-- A text in front of another is cut into its tokens, if no number goes on behind it. -/
lemma tokens?_text_append {cs rest : List Char} {v : Value} (h : IsText cs v)
    (hrest : EndsNumber rest) : tokens? (cs ++ rest) = (tokens? rest).map (v.tokens ++ ·) := by
  match h with
  | .null => exact tokens?_of_token? ((token?_eq_word_iff null_mem_words).2 rfl)
  | .yes => exact tokens?_of_token? ((token?_eq_word_iff true_mem_words).2 rfl)
  | .no => exact tokens?_of_token? ((token?_eq_word_iff false_mem_words).2 rfl)
  | .number h => exact tokens?_of_token? (token?_number_append h hrest)
  | .string h => exact tokens?_of_token? (token?_eq_content_iff.2 ⟨_, h, rfl⟩)
  | .emptyArray hgap =>
    simp only [List.append_assoc, List.cons_append, List.nil_append,
      tokens?_mark_cons openArray_mem_marks, tokens?_gap_append hgap,
      tokens?_mark_cons closeArray_mem_marks, Option.map_map]
    rfl
  | .array h =>
    simp only [List.append_assoc, List.cons_append, List.nil_append,
      tokens?_mark_cons openArray_mem_marks,
      tokens?_items_append h (endsNumber_mark_cons closeArray_mem_marks),
      tokens?_mark_cons closeArray_mem_marks, Option.map_map, tokens_array_items]
    rfl
  | .emptyObject hgap =>
    simp only [List.append_assoc, List.cons_append, List.nil_append,
      tokens?_mark_cons openObject_mem_marks, tokens?_gap_append hgap,
      tokens?_mark_cons closeObject_mem_marks, Option.map_map]
    rfl
  | .object h =>
    simp only [List.append_assoc, List.cons_append, List.nil_append,
      tokens?_mark_cons openObject_mem_marks,
      tokens?_fields_append h (endsNumber_mark_cons closeObject_mem_marks),
      tokens?_mark_cons closeObject_mem_marks, Option.map_map, tokens_object_fields]
    rfl

lemma tokens?_json_append {cs rest : List Char} {v : Value} (h : IsJson cs v)
    (hrest : EndsNumber rest) : tokens? (cs ++ rest) = (tokens? rest).map (v.tokens ++ ·) := by
  match h with
  | .mk hbefore h hafter =>
    rw [List.append_assoc, List.append_assoc, tokens?_gap_append hbefore,
      tokens?_text_append h (hrest.gap_append hafter), tokens?_gap_append hafter]

lemma tokens?_items_append {cs rest : List Char} {vs : List Value} (h : AreItems cs vs)
    (hrest : EndsNumber rest) :
    tokens? (cs ++ rest) = (tokens? rest).map (itemsTokens vs ++ ·) := by
  match h with
  | .one h => rw [tokens?_json_append h hrest, itemsTokens, Value.moreItems, List.append_nil]
  | .more hfront hback =>
    rw [List.append_assoc, List.cons_append,
      tokens?_json_append hfront (endsNumber_mark_cons comma_mem_marks),
      tokens?_mark_cons comma_mem_marks, tokens?_items_append hback hrest, Option.map_map,
      Option.map_map, itemsTokens, hback.moreItems_eq]
    simp [Function.comp_def]

lemma tokens?_fields_append {cs rest : List Char} {fs : List (Content × Value)}
    (h : AreFields cs fs) (hrest : EndsNumber rest) :
    tokens? (cs ++ rest) = (tokens? rest).map (fieldsTokens fs ++ ·) := by
  match h with
  | .one hkey h =>
    rw [List.append_assoc, List.cons_append, tokens?_key_append hkey,
      tokens?_mark_cons colon_mem_marks, tokens?_json_append h hrest, Option.map_map,
      Option.map_map, fieldsTokens, Value.moreFields, List.append_nil]
    rfl
  | .more hkey hfront hback =>
    rw [List.append_assoc, List.cons_append, List.append_assoc, List.cons_append,
      tokens?_key_append hkey, tokens?_mark_cons colon_mem_marks,
      tokens?_json_append hfront (endsNumber_mark_cons comma_mem_marks),
      tokens?_mark_cons comma_mem_marks, tokens?_fields_append hback hrest, Option.map_map,
      Option.map_map, Option.map_map, Option.map_map, fieldsTokens, hback.moreFields_eq]
    simp [Function.comp_def]

end

/-! ### The texts of tokens -/

/-- A text of `v` behind a gap, in front of a text with the tokens `ts`. -/
def StartsWith (cs : List Char) (v : Value) (ts : List Token) : Prop :=
  ∃ gap front rest, IsGap gap ∧ IsText front v ∧ cs = gap ++ (front ++ rest) ∧
    tokens? rest = some ts

lemma startsWith_of_token? (h : tokens? cs = some (t :: ts))
    (htoken : ∀ front rest, token? front = some (t, rest) →
      ∃ cs, IsText cs v ∧ front = cs ++ rest) :
    StartsWith cs v ts := by
  obtain ⟨gap, front, rest, hgap, rfl, hfront, hrest⟩ := tokens?_eq_cons_iff.1 h
  obtain ⟨cs, hcs, rfl⟩ := htoken front rest hfront
  exact ⟨gap, cs, rest, hgap, hcs, rfl, hrest⟩

lemma exists_key (h : tokens? cs = some (.string k :: .colon :: ts)) :
    ∃ key rest, IsKey key k ∧ cs = key ++ ':' :: rest ∧ tokens? rest = some ts := by
  obtain ⟨before, front, _, hbefore, rfl, htoken, hcolon⟩ := tokens?_eq_cons_iff.1 h
  obtain ⟨literal, hliteral, rfl⟩ := token?_eq_content_iff.1 htoken
  obtain ⟨after, rest, hafter, rfl, hrest⟩ := (tokens?_eq_mark_cons_iff colon_mem_marks).1 hcolon
  exact ⟨_, rest, .mk hbefore hliteral hafter, by simp, hrest⟩

mutual

/-- What is cut into the tokens of a value and others starts with a text of the value. -/
lemma startsWith_of_tokens? {cs : List Char} {ts : List Token} (v : Value)
    (h : tokens? cs = some (v.tokens ++ ts)) : StartsWith cs v ts := by
  match v with
  | .null =>
    refine startsWith_of_token? h fun front rest hfront => ?_
    exact ⟨_, .null, (token?_eq_word_iff null_mem_words).1 hfront⟩
  | .bool true =>
    refine startsWith_of_token? h fun front rest hfront => ?_
    exact ⟨_, .yes, (token?_eq_word_iff true_mem_words).1 hfront⟩
  | .bool false =>
    refine startsWith_of_token? h fun front rest hfront => ?_
    exact ⟨_, .no, (token?_eq_word_iff false_mem_words).1 hfront⟩
  | .number _ =>
    refine startsWith_of_token? h fun front rest hfront => ?_
    obtain ⟨spelling, hspelling, rfl, hcs⟩ := exists_number_of_token? hfront
    exact ⟨spelling, .number hspelling, hcs⟩
  | .string _ =>
    refine startsWith_of_token? h fun front rest hfront => ?_
    obtain ⟨literal, hliteral, hcs⟩ := token?_eq_content_iff.1 hfront
    exact ⟨literal, .string hliteral, hcs⟩
  | .array [] =>
    obtain ⟨gap, _, hgap, rfl, hclose⟩ := (tokens?_eq_mark_cons_iff openArray_mem_marks).1 h
    obtain ⟨inside, rest, hinside, rfl, hrest⟩ :=
      (tokens?_eq_mark_cons_iff closeArray_mem_marks).1 hclose
    exact ⟨gap, _, rest, hgap, .emptyArray hinside, by simp, hrest⟩
  | .array (v :: vs) =>
    rw [Value.tokens, List.append_assoc, List.append_assoc, List.cons_append] at h
    obtain ⟨gap, _, hgap, rfl, hvalue⟩ := (tokens?_eq_mark_cons_iff openArray_mem_marks).1 h
    obtain ⟨before, front, _, hbefore, hfront, rfl, hmore⟩ := startsWith_of_tokens? v hvalue
    obtain ⟨items, rest, hitems, hcs, hrest⟩ := exists_items vs hbefore hfront hmore
    exact ⟨gap, _, rest, hgap, .array hitems, by simp [hcs], hrest⟩
  | .object [] =>
    obtain ⟨gap, _, hgap, rfl, hclose⟩ := (tokens?_eq_mark_cons_iff openObject_mem_marks).1 h
    obtain ⟨inside, rest, hinside, rfl, hrest⟩ :=
      (tokens?_eq_mark_cons_iff closeObject_mem_marks).1 hclose
    exact ⟨gap, _, rest, hgap, .emptyObject hinside, by simp, hrest⟩
  | .object ((k, v) :: fs) =>
    rw [Value.tokens, List.append_assoc, List.append_assoc, List.cons_append, List.cons_append,
      List.cons_append] at h
    obtain ⟨gap, _, hgap, rfl, hfield⟩ := (tokens?_eq_mark_cons_iff openObject_mem_marks).1 h
    obtain ⟨key, _, hkey, rfl, hvalue⟩ := exists_key hfield
    obtain ⟨before, front, _, hbefore, hfront, rfl, hmore⟩ := startsWith_of_tokens? v hvalue
    obtain ⟨fields, rest, hfields, hcs, hrest⟩ := exists_fields fs hkey hbefore hfront hmore
    exact ⟨gap, _, rest, hgap, .object hfields, by simp [hcs], hrest⟩

lemma exists_items {before front cs : List Char} {v : Value} {ts : List Token} (vs : List Value)
    (hbefore : IsGap before) (hfront : IsText front v)
    (h : tokens? cs = some (Value.moreItems vs ++ .closeArray :: ts)) :
    ∃ items rest, AreItems items (v :: vs) ∧ before ++ (front ++ cs) = items ++ ']' :: rest ∧
      tokens? rest = some ts := by
  match vs with
  | [] =>
    obtain ⟨after, rest, hafter, rfl, hrest⟩ := (tokens?_eq_mark_cons_iff closeArray_mem_marks).1 h
    exact ⟨_, rest, .one (.mk hbefore hfront hafter), by simp, hrest⟩
  | w :: vs =>
    rw [Value.moreItems, List.append_assoc, List.cons_append] at h
    obtain ⟨after, _, hafter, rfl, hvalue⟩ := (tokens?_eq_mark_cons_iff comma_mem_marks).1 h
    obtain ⟨before', front', _, hbefore', hfront', rfl, hmore⟩ := startsWith_of_tokens? w hvalue
    obtain ⟨items, rest, hitems, hcs, hrest⟩ := exists_items vs hbefore' hfront' hmore
    exact ⟨_, rest, .more (.mk hbefore hfront hafter) hitems, by simp [hcs], hrest⟩

lemma exists_fields {key before front cs : List Char} {k : Content} {v : Value} {ts : List Token}
    (fs : List (Content × Value)) (hkey : IsKey key k) (hbefore : IsGap before)
    (hfront : IsText front v)
    (h : tokens? cs = some (Value.moreFields fs ++ .closeObject :: ts)) :
    ∃ fields rest, AreFields fields ((k, v) :: fs) ∧
      key ++ ':' :: (before ++ (front ++ cs)) = fields ++ '}' :: rest ∧ tokens? rest = some ts := by
  match fs with
  | [] =>
    obtain ⟨after, rest, hafter, rfl, hrest⟩ := (tokens?_eq_mark_cons_iff closeObject_mem_marks).1 h
    exact ⟨_, rest, .one hkey (.mk hbefore hfront hafter), by simp, hrest⟩
  | (l, w) :: fs =>
    rw [Value.moreFields, List.append_assoc, List.cons_append, List.cons_append,
      List.cons_append] at h
    obtain ⟨after, _, hafter, rfl, hfield⟩ := (tokens?_eq_mark_cons_iff comma_mem_marks).1 h
    obtain ⟨key', _, hkey', rfl, hvalue⟩ := exists_key hfield
    obtain ⟨before', front', _, hbefore', hfront', rfl, hmore⟩ := startsWith_of_tokens? w hvalue
    obtain ⟨fields, rest, hfields, hcs, hrest⟩ := exists_fields fs hkey' hbefore' hfront' hmore
    exact ⟨_, rest, .more hkey (.mk hbefore hfront hafter) hfields, by simp [hcs], hrest⟩

end

/-! ### Reading -/

lemma tokens?_eq_tokens_iff : tokens? cs = some v.tokens ↔ IsJson cs v := by
  constructor
  · intro h
    rw [← List.append_nil v.tokens] at h
    obtain ⟨before, front, after, hbefore, hfront, rfl, hafter⟩ := startsWith_of_tokens? v h
    rw [← List.append_assoc]
    exact .mk hbefore hfront (tokens?_eq_nil_iff.1 hafter)
  · intro h
    have hnil : EndsNumber [] := by
      rintro _ ⟨⟩
    have htokens := tokens?_json_append h hnil
    rwa [tokens?_eq_nil_iff.2 isGap_nil, Option.map_some, List.append_nil, List.append_nil]
      at htokens

/-- A text is read as a value when it is one of the texts of the value. -/
theorem ofChars?_eq_some_iff_isJson : Value.ofChars? cs = some v ↔ IsJson cs v :=
  Value.ofChars?_eq_some_iff.trans tokens?_eq_tokens_iff

/-! ### Texts without gaps -/

lemma IsText.isJson (h : IsText cs v) : IsJson cs v := by
  simpa using IsJson.mk isGap_nil h isGap_nil

lemma isText_quote (text : String) : IsText (quote text.toList) (.string (some text)) :=
  .string (isLiteral_quote text)

lemma isKey_quote (text : String) : IsKey (quote text.toList) (some text) := by
  have h : IsString (quote text.toList) (some text) := isLiteral_quote text
  simpa using IsKey.mk isGap_nil h isGap_nil

/-! ### Values of some text -/

/-- A value that some text spells. -/
def IsSpelled (v : Value) : Prop := ∃ cs, IsText cs v

lemma IsJson.isSpelled (h : IsJson cs v) : IsSpelled v := by
  obtain ⟨-, h, -⟩ := h
  exact ⟨_, h⟩

lemma AreItems.isSpelled {cs : List Char} {vs : List Value} (h : AreItems cs vs) :
    ∀ v ∈ vs, IsSpelled v := by
  match h with
  | .one h => exact List.forall_mem_singleton.2 h.isSpelled
  | .more hfront hback => exact List.forall_mem_cons.2 ⟨hfront.isSpelled, hback.isSpelled⟩

lemma AreFields.isSpelled {cs : List Char} {fs : List (Content × Value)} (h : AreFields cs fs) :
    ∀ f ∈ fs, IsSpelled f.2 := by
  match h with
  | .one _ h => exact List.forall_mem_singleton.2 h.isSpelled
  | .more _ hfront hback => exact List.forall_mem_cons.2 ⟨hfront.isSpelled, hback.isSpelled⟩

lemma IsSpelled.of_mem_array {vs : List Value} (h : IsSpelled (.array vs)) :
    ∀ v ∈ vs, IsSpelled v := by
  obtain ⟨_, h⟩ := h
  cases h with
  | emptyArray => exact fun v hv => absurd hv List.not_mem_nil
  | array h => exact h.isSpelled

lemma IsSpelled.of_mem_object {fs : List Field} (h : IsSpelled (.object fs)) :
    ∀ f ∈ fs, IsSpelled f.2 := by
  obtain ⟨_, h⟩ := h
  cases h with
  | emptyObject => exact fun f hf => absurd hf List.not_mem_nil
  | object h => exact h.isSpelled

lemma IsSpelled.isNumber {spelling : String} (h : IsSpelled (.number spelling)) :
    IsNumber spelling.toList := by
  obtain ⟨_, h⟩ := h
  cases h with
  | number h => rwa [String.toList_ofList]

/-! ### Places of a value -/

/-- The beginnings of a text up to a place where a value is due. -/
inductive LeadsToValue : List Char → Prop
  | start {gap : List Char} (hgap : IsGap gap) : LeadsToValue gap
  | firstItem {front gap : List Char} (hfront : LeadsToValue front) (hgap : IsGap gap) :
      LeadsToValue (front ++ '[' :: gap)
  | item {front items gap : List Char} {vs : List Value} (hfront : LeadsToValue front)
      (hitems : AreItems items vs) (hgap : IsGap gap) :
      LeadsToValue (front ++ '[' :: (items ++ ',' :: gap))
  | firstField {front key gap : List Char} {k : Content} (hfront : LeadsToValue front)
      (hkey : IsKey key k) (hgap : IsGap gap) : LeadsToValue (front ++ '{' :: (key ++ ':' :: gap))
  | field {front fields key gap : List Char} {fs : List Field} {k : Content}
      (hfront : LeadsToValue front) (hfields : AreFields fields fs) (hkey : IsKey key k)
      (hgap : IsGap gap) : LeadsToValue (front ++ '{' :: (fields ++ ',' :: (key ++ ':' :: gap)))

/-- A text has no tokens if what stands at the place of a value has none. -/
lemma LeadsToValue.tokens?_eq_none {back : List Char} (h : LeadsToValue front)
    (hback : tokens? back = none) : tokens? (front ++ back) = none := by
  induction h generalizing back with
  | start hgap => rwa [tokens?_gap_append hgap]
  | firstItem _ hgap ih =>
    rw [List.append_assoc, List.cons_append]
    apply ih
    rw [tokens?_mark_cons openArray_mem_marks, tokens?_gap_append hgap, hback, Option.map_none]
  | item _ hitems hgap ih =>
    rw [List.append_assoc, List.cons_append, List.append_assoc, List.cons_append]
    apply ih
    rw [tokens?_mark_cons openArray_mem_marks,
      tokens?_items_append hitems (endsNumber_mark_cons comma_mem_marks),
      tokens?_mark_cons comma_mem_marks, tokens?_gap_append hgap, hback]
    rfl
  | firstField _ hkey hgap ih =>
    rw [List.append_assoc, List.cons_append, List.append_assoc, List.cons_append]
    apply ih
    rw [tokens?_mark_cons openObject_mem_marks, tokens?_key_append hkey,
      tokens?_mark_cons colon_mem_marks, tokens?_gap_append hgap, hback]
    rfl
  | field _ hfields hkey hgap ih =>
    rw [List.append_assoc, List.cons_append, List.append_assoc, List.cons_append,
      List.append_assoc, List.cons_append]
    apply ih
    rw [tokens?_mark_cons openObject_mem_marks,
      tokens?_fields_append hfields (endsNumber_mark_cons comma_mem_marks),
      tokens?_mark_cons comma_mem_marks, tokens?_key_append hkey,
      tokens?_mark_cons colon_mem_marks, tokens?_gap_append hgap, hback]
    rfl

/-- No value starts with a plus sign. -/
lemma LeadsToValue.not_isJson_plus {back : List Char} (h : LeadsToValue front) :
    ¬IsJson (front ++ '+' :: back) v := by
  have hplus : tokens? ('+' :: back) = none := by
    rw [tokens?_of_dropWhile_cons rfl]
    rfl
  intro hjson
  cases (h.tokens?_eq_none hplus).symm.trans (tokens?_eq_tokens_iff.2 hjson)

end ShardedIndex.Json
