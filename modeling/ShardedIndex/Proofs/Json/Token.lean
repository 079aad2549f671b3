import ShardedIndex.Json.Token
import ShardedIndex.Proofs.Json.Literal

/-!
# Cutting a text into tokens

What `tokens?` returns is described by the first token: a gap, the characters of the token, and a
text with the remaining tokens. Marks are one character each, and a string token of a text is one of
the literals of the text.
-/

namespace ShardedIndex.Json

variable {mark : Char} {cs word gap rest : List Char} {t : Token} {ts : List Token} {text : String}
  {content : Content}

/-! ### Gaps -/

/-- A text of spaces, tabs, line feeds and carriage returns only. -/
def IsGap (cs : List Char) : Prop := ∀ c ∈ cs, c = ' ' ∨ c = '\t' ∨ c = '\n' ∨ c = '\r'

lemma isSpace_iff {c : Char} : isSpace c = true ↔ c = ' ' ∨ c = '\t' ∨ c = '\n' ∨ c = '\r' := by
  simp [isSpace, or_assoc]

lemma isGap_nil : IsGap [] := by
  intro c hc
  cases hc

lemma isGap_takeWhile (cs : List Char) : IsGap (cs.takeWhile isSpace) := fun _ hc =>
  isSpace_iff.1 (List.mem_takeWhile_imp hc)

lemma dropWhile_gap_append (hgap : IsGap gap) :
    (gap ++ cs).dropWhile isSpace = cs.dropWhile isSpace :=
  List.dropWhile_append_of_pos fun _ hc => isSpace_iff.2 (hgap _ hc)

lemma dropWhile_gap (hgap : IsGap gap) : gap.dropWhile isSpace = [] := by
  rw [← List.append_nil gap, dropWhile_gap_append hgap, List.dropWhile_nil]

lemma exists_gap_append (cs : List Char) : ∃ gap, IsGap gap ∧ cs = gap ++ cs.dropWhile isSpace :=
  ⟨_, isGap_takeWhile cs, List.takeWhile_append_dropWhile.symm⟩

/-! ### One token at a time -/

lemma tokens?_gap_append (hgap : IsGap gap) : tokens? (gap ++ cs) = tokens? cs := by
  unfold tokens?
  rw [dropWhile_gap_append hgap]

lemma tokens?_of_dropWhile_nil (h : cs.dropWhile isSpace = []) : tokens? cs = some [] := by
  rw [tokens?]
  split
  · rfl
  · next hcons => cases h.symm.trans hcons

lemma tokens?_of_dropWhile_cons {c : Char} {front : List Char}
    (h : cs.dropWhile isSpace = c :: front) :
    tokens? cs = (token? (c :: front)).bind fun (t, rest) => (tokens? rest).map (t :: ·) := by
  rw [tokens?, ← h]
  split
  · next hnil => cases h.symm.trans hnil
  · split
    · next hnone => rw [hnone, Option.bind_none]
    · next hsome => rw [hsome, Option.bind_some]

/-- No token starts with a space. -/
lemma not_isSpace_of_token? {c : Char} (h : token? (c :: cs) = some (t, rest)) :
    ¬isSpace c = true := by
  intro hc
  rcases isSpace_iff.1 hc with rfl | rfl | rfl | rfl <;> cases h

lemma tokens?_of_token? (h : token? cs = some (t, rest)) :
    tokens? cs = (tokens? rest).map (t :: ·) := by
  obtain _ | ⟨c, cs⟩ := cs
  · cases h
  · rw [tokens?_of_dropWhile_cons (List.dropWhile_cons_of_neg (not_isSpace_of_token? h)), h,
      Option.bind_some]

theorem tokens?_eq_nil_iff : tokens? cs = some [] ↔ IsGap cs := by
  constructor
  · intro h
    obtain ⟨gap, hgap, hcs⟩ := exists_gap_append cs
    cases hdrop : cs.dropWhile isSpace with
    | nil =>
      rw [hdrop, List.append_nil] at hcs
      rwa [hcs]
    | cons c front =>
      rw [tokens?_of_dropWhile_cons hdrop] at h
      obtain ⟨⟨t, rest⟩, -, h⟩ := Option.bind_eq_some_iff.1 h
      obtain ⟨ts, -, h⟩ := Option.map_eq_some_iff.1 h
      cases h
  · intro hgap
    exact tokens?_of_dropWhile_nil (dropWhile_gap hgap)

theorem tokens?_eq_cons_iff :
    tokens? cs = some (t :: ts) ↔
      ∃ gap front rest, IsGap gap ∧ cs = gap ++ front ∧ token? front = some (t, rest) ∧
        tokens? rest = some ts := by
  constructor
  · intro h
    obtain ⟨gap, hgap, hcs⟩ := exists_gap_append cs
    cases hdrop : cs.dropWhile isSpace with
    | nil => cases (tokens?_of_dropWhile_nil hdrop).symm.trans h
    | cons c front =>
      rw [tokens?_of_dropWhile_cons hdrop] at h
      obtain ⟨⟨t', rest⟩, htoken, h⟩ := Option.bind_eq_some_iff.1 h
      obtain ⟨ts', hrest, h⟩ := Option.map_eq_some_iff.1 h
      cases h
      exact ⟨gap, c :: front, rest, hgap, hdrop ▸ hcs, htoken, hrest⟩
  · rintro ⟨gap, front, rest, hgap, rfl, htoken, hrest⟩
    rw [tokens?_gap_append hgap, tokens?_of_token? htoken, hrest, Option.map_some]

/-! ### Marks -/

/-- The tokens of one character. -/
def marks : List (Char × Token) :=
  [('{', .openObject), ('}', .closeObject), ('[', .openArray), (']', .closeArray), (':', .colon),
    (',', .comma)]

lemma openObject_mem_marks : ('{', .openObject) ∈ marks := by decide

lemma closeObject_mem_marks : ('}', .closeObject) ∈ marks := by decide

lemma openArray_mem_marks : ('[', .openArray) ∈ marks := by decide

lemma closeArray_mem_marks : (']', .closeArray) ∈ marks := by decide

lemma colon_mem_marks : (':', .colon) ∈ marks := by decide

lemma comma_mem_marks : (',', .comma) ∈ marks := by decide

lemma token?_eq_mark_iff (hmark : (mark, t) ∈ marks) :
    token? cs = some (t, rest) ↔ cs = mark :: rest := by
  simp only [marks, List.mem_cons, Prod.mk.injEq, List.not_mem_nil, or_false] at hmark
  constructor
  · intro h
    unfold token? at h
    split at h
    case h_10 | h_11 =>
      obtain ⟨_, _, h⟩ := Option.map_eq_some_iff.1 h
      cases h
      simp at hmark
    case h_7 | h_8 | h_9 =>
      cases h
      simp at hmark
    all_goals
      cases h
      simp only [reduceCtorEq, and_false, and_true, or_false, false_or] at hmark
      rw [hmark]
  · rintro rfl
    rcases hmark with ⟨rfl, rfl⟩ | ⟨rfl, rfl⟩ | ⟨rfl, rfl⟩ | ⟨rfl, rfl⟩ | ⟨rfl, rfl⟩ |
      ⟨rfl, rfl⟩ <;> rfl

lemma tokens?_mark_cons (hmark : (mark, t) ∈ marks) :
    tokens? (mark :: cs) = (tokens? cs).map (t :: ·) :=
  tokens?_of_token? ((token?_eq_mark_iff hmark).2 rfl)

lemma tokens?_eq_mark_cons_iff (hmark : (mark, t) ∈ marks) :
    tokens? cs = some (t :: ts) ↔
      ∃ gap rest, IsGap gap ∧ cs = gap ++ mark :: rest ∧ tokens? rest = some ts := by
  constructor
  · intro h
    obtain ⟨gap, front, rest, hgap, rfl, htoken, hrest⟩ := tokens?_eq_cons_iff.1 h
    obtain rfl := (token?_eq_mark_iff hmark).1 htoken
    exact ⟨gap, rest, hgap, rfl, hrest⟩
  · rintro ⟨gap, rest, hgap, rfl, hrest⟩
    rw [tokens?_gap_append hgap, tokens?_mark_cons hmark, hrest, Option.map_some]

/-! ### Words -/

/-- The tokens of one word. -/
def words : List (List Char × Token) :=
  [("null".toList, .null), ("true".toList, .bool true), ("false".toList, .bool false)]

lemma null_mem_words : ("null".toList, .null) ∈ words := by decide

lemma true_mem_words : ("true".toList, .bool true) ∈ words := by decide

lemma false_mem_words : ("false".toList, .bool false) ∈ words := by decide

lemma token?_eq_word_iff (hword : (word, t) ∈ words) :
    token? cs = some (t, rest) ↔ cs = word ++ rest := by
  simp only [words, List.mem_cons, Prod.mk.injEq, List.not_mem_nil, or_false] at hword
  constructor
  · intro h
    unfold token? at h
    split at h
    case h_10 | h_11 =>
      obtain ⟨_, _, h⟩ := Option.map_eq_some_iff.1 h
      cases h
      simp at hword
    case h_7 | h_8 | h_9 =>
      cases h
      simp only [reduceCtorEq, and_false, and_true, or_false, false_or, Token.bool.injEq] at hword
      rw [hword]
      rfl
    all_goals
      cases h
      simp at hword
  · rintro rfl
    rcases hword with ⟨rfl, rfl⟩ | ⟨rfl, rfl⟩ | ⟨rfl, rfl⟩ <;> rfl

/-! ### Literals -/

/-- A string token has the pieces between two quotation marks, and the content they merge to. -/
lemma token?_eq_pieces_iff : token? cs = some (.string content, rest) ↔
    ∃ inside pieces, SpellsPieces inside pieces ∧ cs = '"' :: inside ++ '"' :: rest ∧
      content = (merge pieces).map String.ofList := by
  constructor
  · intro h
    unfold token? at h
    split at h
    case h_10 =>
      obtain ⟨⟨pieces, rest⟩, hscan, h⟩ := Option.map_eq_some_iff.1 h
      cases h
      obtain ⟨inside, hinside, rfl⟩ := scan_eq_some_iff.1 hscan
      exact ⟨inside, pieces, hinside, rfl, rfl⟩
    case h_11 =>
      obtain ⟨_, _, h⟩ := Option.map_eq_some_iff.1 h
      cases h
    all_goals cases h
  · rintro ⟨inside, pieces, hinside, rfl, rfl⟩
    rw [List.cons_append, token?, scan_of_spellsPieces hinside, Option.map_some]

lemma token?_eq_string_iff :
    token? cs = some (.string (some text), rest) ↔
      ∃ literal, IsLiteral literal text ∧ cs = literal ++ rest := by
  rw [token?_eq_pieces_iff]
  constructor
  · rintro ⟨inside, pieces, hpieces, rfl, hcontent⟩
    obtain ⟨chars, hmerge, rfl⟩ := Option.map_eq_some_iff.1 hcontent.symm
    rw [← String.toList_ofList (l := chars), merge_eq_some_iff hpieces] at hmerge
    exact ⟨_, ⟨inside, hmerge, rfl⟩, by simp⟩
  · rintro ⟨_, ⟨inside, hinside, rfl⟩, rfl⟩
    obtain ⟨pieces, hpieces, hmerge⟩ := exists_pieces hinside
    exact ⟨inside, pieces, hpieces, by simp, by simp [hmerge]⟩

lemma tokens?_literal_append {literal : List Char} (hliteral : IsLiteral literal text) :
    tokens? (literal ++ cs) = (tokens? cs).map (.string (some text) :: ·) :=
  tokens?_of_token? (token?_eq_string_iff.2 ⟨literal, hliteral, rfl⟩)

lemma tokens?_eq_string_cons_iff :
    tokens? cs = some (.string (some text) :: ts) ↔
      ∃ gap literal rest, IsGap gap ∧ IsLiteral literal text ∧ cs = gap ++ literal ++ rest ∧
        tokens? rest = some ts := by
  constructor
  · intro h
    obtain ⟨gap, front, rest, hgap, rfl, htoken, hrest⟩ := tokens?_eq_cons_iff.1 h
    obtain ⟨literal, hliteral, rfl⟩ := token?_eq_string_iff.1 htoken
    exact ⟨gap, literal, rest, hgap, hliteral, (List.append_assoc ..).symm, hrest⟩
  · rintro ⟨gap, literal, rest, hgap, hliteral, rfl, hrest⟩
    rw [List.append_assoc, tokens?_gap_append hgap, tokens?_literal_append hliteral, hrest,
      Option.map_some]

/-! ### Literals of any content -/

/-- The literals in which half of a surrogate pair stands alone, so that they denote no text. -/
def IsBroken (cs : List Char) : Prop :=
  (∃ inside pieces, SpellsPieces inside pieces ∧ cs = '"' :: inside ++ ['"']) ∧
    ∀ text, ¬IsLiteral cs text

/-- The literals with a content. -/
def IsString (cs : List Char) : Content → Prop
  | some text => IsLiteral cs text
  | none      => IsBroken cs

lemma merge_eq_none_iff {inside : List Char} {pieces : List Piece}
    (h : SpellsPieces inside pieces) :
    merge pieces = none ↔ ∀ text, ¬IsLiteral ('"' :: inside ++ ['"']) text := by
  have hliteral (text : String) :
      IsLiteral ('"' :: inside ++ ['"']) text ↔ merge pieces = some text.toList := by
    rw [merge_eq_some_iff h]
    constructor
    · rintro ⟨inside', hinside, heq⟩
      obtain rfl : inside = inside' := by simpa using heq
      exact hinside
    · exact fun hinside => ⟨inside, hinside, rfl⟩
  rw [Option.eq_none_iff_forall_ne_some]
  simp only [hliteral]
  exact ⟨fun hne text => hne _, fun hne chars => by simpa using hne (String.ofList chars)⟩

lemma token?_eq_broken_iff : token? cs = some (.string none, rest) ↔
    ∃ literal, IsBroken literal ∧ cs = literal ++ rest := by
  rw [token?_eq_pieces_iff]
  constructor
  · rintro ⟨inside, pieces, hpieces, rfl, hcontent⟩
    have hnone := Option.map_eq_none_iff.1 hcontent.symm
    exact ⟨_, ⟨⟨inside, pieces, hpieces, rfl⟩, (merge_eq_none_iff hpieces).1 hnone⟩, by simp⟩
  · rintro ⟨_, ⟨⟨inside, pieces, hpieces, rfl⟩, hbroken⟩, rfl⟩
    exact ⟨inside, pieces, hpieces, by simp, by simp [(merge_eq_none_iff hpieces).2 hbroken]⟩

lemma token?_eq_content_iff : token? cs = some (.string content, rest) ↔
    ∃ literal, IsString literal content ∧ cs = literal ++ rest := by
  cases content with
  | none => exact token?_eq_broken_iff
  | some text => exact token?_eq_string_iff

end ShardedIndex.Json
