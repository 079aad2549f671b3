import ShardedIndex.Proofs.Json.Token
import ShardedIndex.Proofs.Json.Value
import ShardedIndex.Proofs.Properties.Views
import ShardedIndex.Properties.Document

/-!
# Documents of properties

The documents of a list of entries are described character by character: an object of string
literals, with gaps wherever the format allows them. `read` accepts these documents and no other
text, and the document that `write` makes is one of them.
-/

namespace ShardedIndex.Properties

open Json

variable {p : Properties} {mark : Char} {cs member members object rest : List Char}
  {entry next : String × String} {entries : List (String × String)} {text k : String} {t : Token}
  {ts : List Token}

/-! ### Documents -/

/-- A key, a colon and a text, with gaps around the key and around the text. -/
inductive IsMember : List Char → String × String → Prop
  | mk {g₁ g₂ g₃ g₄ key value : List Char} {k v : String} (h₁ : IsGap g₁) (hkey : IsLiteral key k)
      (h₂ : IsGap g₂) (h₃ : IsGap g₃) (hvalue : IsLiteral value v) (h₄ : IsGap g₄) :
      IsMember (g₁ ++ key ++ g₂ ++ ':' :: (g₃ ++ value ++ g₄)) (k, v)

/-- Members with a comma between them. -/
inductive AreMembers : List Char → List (String × String) → Prop
  | one {cs : List Char} {entry : String × String} (h : IsMember cs entry) : AreMembers cs [entry]
  | more {front back : List Char} {entry next : String × String} {entries : List (String × String)}
      (hfront : IsMember front entry) (hback : AreMembers back (next :: entries)) :
      AreMembers (front ++ ',' :: back) (entry :: next :: entries)

/-- Members, or a gap, between braces. -/
inductive IsObject : List Char → List (String × String) → Prop
  | empty {gap : List Char} (hgap : IsGap gap) : IsObject ('{' :: gap ++ ['}']) []
  | members {cs : List Char} {entries : List (String × String)} (h : AreMembers cs entries) :
      IsObject ('{' :: cs ++ ['}']) entries

/-- The documents of entries: an object with gaps around it. -/
def IsDocument (cs : List Char) (entries : List (String × String)) : Prop :=
  ∃ before object after, IsGap before ∧ IsObject object entries ∧ IsGap after ∧
    cs = before ++ object ++ after

/-! ### Tokens of a document -/

/-- The field of an object that an entry is written as. -/
def field (entry : String × String) : Field := (some entry.1, .string (some entry.2))

lemma entry?_eq_some_iff {f : Field} : entry? f = some entry ↔ f = field entry := by
  unfold entry?
  split
  · next key value => cases entry; simp [field]
  · next hne =>
    constructor
    · intro h
      cases h
    · rintro rfl
      exact absurd rfl (hne _ _)

lemma mapM_entry?_eq_some_iff {fields : List Field} :
    fields.mapM entry? = some entries ↔ fields = entries.map field := by
  induction fields generalizing entries with
  | nil => cases entries <;> simp
  | cons f fields ih =>
    cases entries <;> simp [Option.bind_eq_some_iff, entry?_eq_some_iff, ih]

lemma entries?_eq_some_iff {v : Value} :
    entries? v = some entries ↔ v = .object (entries.map field) := by
  cases v with
  | object fields => rw [entries?, mapM_entry?_eq_some_iff, Value.object.injEq]
  | _ => simp [entries?]

/-- The tokens of a member. -/
def memberTokens (entry : String × String) : List Token :=
  [.string (some entry.1), .colon, .string (some entry.2)]

/-- The tokens of members with a comma between them. -/
def membersTokens : List (String × String) → List Token
  | []               => []
  | entry :: entries => memberTokens entry ++ Value.moreFields (entries.map field)

lemma membersTokens_cons_cons (entry next : String × String) (entries : List (String × String)) :
    membersTokens (entry :: next :: entries) =
      memberTokens entry ++ .comma :: membersTokens (next :: entries) := rfl

lemma tokens_object (entries : List (String × String)) :
    (Value.object (entries.map field)).tokens =
      .openObject :: membersTokens entries ++ [.closeObject] := by
  cases entries <;> rfl

lemma tokens?_member_append (h : IsMember member entry) :
    tokens? (member ++ rest) = (tokens? rest).map (memberTokens entry ++ ·) := by
  obtain ⟨h₁, hkey, h₂, h₃, hvalue, h₄⟩ := h
  simp only [List.append_assoc, List.cons_append, tokens?_gap_append h₁, tokens?_gap_append h₂,
    tokens?_gap_append h₃, tokens?_gap_append h₄, tokens?_literal_append hkey,
    tokens?_literal_append hvalue, tokens?_mark_cons colon_mem_marks, Option.map_map]
  rfl

lemma tokens?_members_append (h : AreMembers members entries) :
    tokens? (members ++ rest) = (tokens? rest).map (membersTokens entries ++ ·) := by
  induction h with
  | one h =>
    rw [tokens?_member_append h, membersTokens, List.map_nil, Value.moreFields, List.append_nil]
  | more hfront _ ih =>
    rw [List.append_assoc, List.cons_append, tokens?_member_append hfront,
      tokens?_mark_cons comma_mem_marks, ih, Option.map_map, Option.map_map,
      membersTokens_cons_cons]
    rfl

lemma exists_member (hmark : (mark, t) ∈ marks)
    (h : tokens? cs = some (memberTokens entry ++ t :: ts)) :
    ∃ member rest, IsMember member entry ∧ cs = member ++ mark :: rest ∧
      tokens? rest = some ts := by
  obtain ⟨g₁, key, _, h₁, hkey, rfl, hcolon⟩ := tokens?_eq_string_cons_iff.1 h
  obtain ⟨g₂, _, h₂, rfl, htext⟩ := (tokens?_eq_mark_cons_iff colon_mem_marks).1 hcolon
  obtain ⟨g₃, value, _, h₃, hvalue, rfl, hend⟩ := tokens?_eq_string_cons_iff.1 htext
  obtain ⟨g₄, rest, h₄, rfl, hrest⟩ := (tokens?_eq_mark_cons_iff hmark).1 hend
  exact ⟨_, rest, ⟨h₁, hkey, h₂, h₃, hvalue, h₄⟩, by simp, hrest⟩

lemma exists_members
    (h : tokens? cs = some (membersTokens (entry :: entries) ++ .closeObject :: ts)) :
    ∃ members rest, AreMembers members (entry :: entries) ∧ cs = members ++ '}' :: rest ∧
      tokens? rest = some ts := by
  induction entries generalizing cs entry with
  | nil =>
    obtain ⟨member, rest, hmember, hcs, hrest⟩ := exists_member closeObject_mem_marks h
    exact ⟨member, rest, .one hmember, hcs, hrest⟩
  | cons next entries ih =>
    rw [membersTokens_cons_cons, List.append_assoc] at h
    obtain ⟨front, _, hfront, rfl, hmore⟩ := exists_member comma_mem_marks h
    obtain ⟨back, rest, hback, rfl, hrest⟩ := ih hmore
    exact ⟨_, rest, .more hfront hback, by simp, hrest⟩

lemma tokens?_eq_object_iff :
    tokens? cs = some (.openObject :: membersTokens entries ++ [.closeObject]) ↔
      IsDocument cs entries := by
  constructor
  · intro h
    obtain ⟨before, _, hbefore, rfl, hopen⟩ :=
      (tokens?_eq_mark_cons_iff openObject_mem_marks).1 h
    cases entries with
    | nil =>
      obtain ⟨gap, after, hgap, rfl, hafter⟩ :=
        (tokens?_eq_mark_cons_iff closeObject_mem_marks).1 hopen
      exact ⟨before, _, after, hbefore, .empty hgap, tokens?_eq_nil_iff.1 hafter, by simp⟩
    | cons entry entries =>
      obtain ⟨members, after, hmembers, rfl, hafter⟩ := exists_members hopen
      exact ⟨before, _, after, hbefore, .members hmembers, tokens?_eq_nil_iff.1 hafter, by simp⟩
  · rintro ⟨before, object, after, hbefore, hobject, hafter, rfl⟩
    rw [List.append_assoc, tokens?_gap_append hbefore]
    cases hobject with
    | empty hgap =>
      rw [List.append_assoc, List.cons_append, List.singleton_append,
        tokens?_mark_cons openObject_mem_marks, tokens?_gap_append hgap,
        tokens?_mark_cons closeObject_mem_marks, tokens?_eq_nil_iff.2 hafter]
      rfl
    | members hmembers =>
      rw [List.append_assoc, List.cons_append, List.singleton_append,
        tokens?_mark_cons openObject_mem_marks, tokens?_members_append hmembers,
        tokens?_mark_cons closeObject_mem_marks, tokens?_eq_nil_iff.2 hafter]
      rfl

/-! ### Reading -/

/-- What a document is read as is settled by its entries. -/
lemma bind_entries?_eq_some_iff :
    (Value.ofChars? cs).bind entries? = some entries ↔ IsDocument cs entries := by
  rw [← tokens?_eq_object_iff, ← tokens_object, ← Value.ofChars?_eq_some_iff,
    Option.bind_eq_some_iff]
  constructor
  · rintro ⟨v, hv, hentries⟩
    rwa [← entries?_eq_some_iff.1 hentries]
  · intro h
    exact ⟨_, h, entries?_eq_some_iff.2 rfl⟩

lemma read_eq_ok_iff :
    read text = .ok p ↔ ∃ entries, IsDocument text.toList entries ∧ p = ofList entries := by
  simp only [← bind_entries?_eq_some_iff]
  unfold read
  cases (Value.ofChars? text.toList).bind entries? <;> simp [eq_comm]

lemma read_eq_error_iff {fault : Fault} : read text = .error fault ↔
    (¬∃ entries, IsDocument text.toList entries) ∧ fault = .malformedDocument := by
  simp only [← bind_entries?_eq_some_iff]
  unfold read
  cases (Value.ofChars? text.toList).bind entries? <;> simp [eq_comm]

/-- The last of several entries under one key stays. -/
lemma get?_ofList (entries : List (String × String)) (k : String) :
    (ofList entries).get? k = entries.reverse.lookup k := by
  induction entries using List.reverseRecOn with
  | nil => rw [ofList, setAll_nil, get?_empty, List.reverse_nil, List.lookup_nil]
  | append_singleton entries entry ih =>
    obtain ⟨key, value⟩ := entry
    rw [ofList, setAll_append, setAll_cons, setAll_nil, get?_set, List.reverse_concat, ← ofList, ih]
    by_cases hkey : key = k
    · subst hkey
      simp
    · have hbeq : (k == key) = false := beq_false_of_ne (Ne.symm hkey)
      simp [hkey, List.lookup_cons, hbeq]

/-! ### Writing -/

lemma ofList_toList (p : Properties) : ofList p.toList = p := by
  ext k : 1
  rw [ofList, get?_setAll (p.get? k) fun v => mem_toList, get?_empty, Option.or_none]

lemma isMember_writeEntry (entry : String × String) : IsMember (writeEntry entry) entry := by
  have h := IsMember.mk isGap_nil (isLiteral_quote entry.1) isGap_nil isGap_nil
    (isLiteral_quote entry.2) isGap_nil
  simpa [writeEntry] using h

lemma areMembers_write (entry : String × String) (entries : List (String × String)) :
    AreMembers ([','].intercalate ((entry :: entries).map writeEntry)) (entry :: entries) := by
  induction entries generalizing entry with
  | nil =>
    have := AreMembers.one (isMember_writeEntry entry)
    simpa using this
  | cons next entries ih =>
    have := AreMembers.more (isMember_writeEntry entry) (ih next)
    simpa using this

lemma isDocument_write (p : Properties) : IsDocument p.write.toList p.toList := by
  have hobject : IsObject p.write.toList p.toList := by
    rw [write, String.toList_ofList]
    cases p.toList with
    | nil => exact .empty isGap_nil
    | cons entry entries => exact .members (areMembers_write entry entries)
  exact ⟨[], _, [], isGap_nil, hobject, isGap_nil, by simp⟩

lemma read_write (p : Properties) : read p.write = .ok p :=
  read_eq_ok_iff.2 ⟨p.toList, isDocument_write p, (ofList_toList p).symm⟩

/-! ### Both ways -/

/-- The texts that are read are the documents. They give their entries set in the order in which
they stand, so the last one of a key stays; any other text is an invalid configuration. What is
written is a document of all entries and reads back. -/
theorem reads_documents (text : String) :
    (∀ p, read text = .ok p ↔ ∃ entries, IsDocument text.toList entries ∧ p = ofList entries) ∧
      (∀ entries k, (ofList entries).get? k = entries.reverse.lookup k) ∧
      (∀ fault, read text = .error fault ↔
        (¬∃ entries, IsDocument text.toList entries) ∧ fault = .malformedDocument) ∧
      Fault.malformedDocument.report.code = .invalidConfiguration ∧
      ∀ p : Properties, IsDocument p.write.toList p.toList ∧ read p.write = .ok p :=
  ⟨fun _ => read_eq_ok_iff, get?_ofList, fun _ => read_eq_error_iff, rfl,
    fun p => ⟨isDocument_write p, read_write p⟩⟩

/-- One key is spelled in two ways, and a text as a surrogate pair. -/
theorem reads_documents_spelled :
    let text := " \x7b\"\\u0061\" :\"\\/\",\"a\":\t\"\\uD83D\\ude00\" \x7d\n"
    read text = .ok (ofList [("a", "/"), ("a", "😀")]) ∧
      (ofList [("a", "/"), ("a", "😀")]).get? "a" = some "😀" := by
  intro text
  have hcode : SpellsUnit ['0', '0', '6', '1'] 'a'.toNat := unit?_eq_some_iff.1 rfl
  have hhigh : SpellsUnit ['D', '8', '3', 'D'] 0xD83D := unit?_eq_some_iff.1 rfl
  have hlow : SpellsUnit ['d', 'e', '0', '0'] 0xDE00 := unit?_eq_some_iff.1 rfl
  have hkey : IsLiteral "\"\\u0061\"".toList "a" := ⟨_, .cons (.unit hcode) .nil, by decide⟩
  have hletter : ('/', '/') ∈ shortEscapes := by decide
  have hslash : IsLiteral "\"\\/\"".toList "/" := ⟨_, .cons (.short hletter) .nil, by decide⟩
  have hpair : IsLiteral "\"\\uD83D\\ude00\"".toList "😀" :=
    ⟨_, .cons (.pair (c := '😀') hhigh hlow (by decide) (by decide) (by decide)) .nil, by decide⟩
  have hgap : IsGap " ".toList := by simp [IsGap]
  have htab : IsGap "\t".toList := by simp [IsGap]
  have hbreak : IsGap "\n".toList := by simp [IsGap]
  have hfirst := IsMember.mk isGap_nil hkey hgap isGap_nil hslash isGap_nil
  have hsecond := IsMember.mk isGap_nil (isLiteral_quote "a") isGap_nil htab hpair hgap
  have hdocument : IsDocument text.toList [("a", "/"), ("a", "😀")] :=
    ⟨_, _, _, hgap, .members (.more hfirst (.one hsecond)), hbreak, by decide⟩
  obtain ⟨hread, hget, -⟩ := reads_documents text
  exact ⟨(hread _).2 ⟨_, hdocument, rfl⟩, hget _ _⟩

end ShardedIndex.Properties
