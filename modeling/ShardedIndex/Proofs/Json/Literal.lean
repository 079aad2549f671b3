import Mathlib
import ShardedIndex.Json.Literal

/-!
# Spellings of a text

A character can stand in a literal in several ways: as it is, behind a backslash, or as the one or
two 16-bit units that it has. The rules for that are given here by themselves. The reader of
literals accepts every spelling by these rules and nothing else, and a literal that is written is
one of the spellings of its text.
-/

namespace ShardedIndex.Json

variable {c : Char} {cs ds front inside rest : List Char} {n high low : Nat} {piece : Piece}
  {pieces : List Piece}

/-! ### Rules -/

/-- A hexadecimal digit, in lower or upper case. -/
def IsHexDigit (c : Char) (n : Nat) : Prop :=
  "0123456789abcdef".toList[n]? = some c ∨ "0123456789ABCDEF".toList[n]? = some c

instance (c : Char) (n : Nat) : Decidable (IsHexDigit c n) := inferInstanceAs (Decidable (_ ∨ _))

/-- The four hexadecimal digits of a 16-bit unit. -/
inductive SpellsUnit : List Char → Nat → Prop
  | mk {a b c d : Char} {w x y z : Nat} (ha : IsHexDigit a w) (hb : IsHexDigit b x)
      (hc : IsHexDigit c y) (hd : IsHexDigit d z) :
      SpellsUnit [a, b, c, d] (w * 4096 + x * 256 + y * 16 + z)

/-- The characters that have an escape of one letter, behind that letter. -/
def shortEscapes : List (Char × Char) :=
  [('"', '"'), ('\\', '\\'), ('/', '/'), ('b', '\x08'), ('f', '\x0c'), ('n', '\n'), ('r', '\r'),
    ('t', '\t')]

/-- The spellings of a character. A control character cannot stand as it is, and a unit that is half
of a surrogate pair cannot stand alone. -/
inductive Spells : List Char → Char → Prop
  | raw {c : Char} (hc : 0x20 ≤ c.toNat) (hquote : c ≠ '"') (hbackslash : c ≠ '\\') : Spells [c] c
  | short {letter c : Char} (hc : (letter, c) ∈ shortEscapes) : Spells ['\\', letter] c
  | unit {ds : List Char} {c : Char} (hc : SpellsUnit ds c.toNat) : Spells ('\\' :: 'u' :: ds) c
  | pair {ds es : List Char} {high low : Nat} {c : Char} (hhigh : SpellsUnit ds high)
      (hlow : SpellsUnit es low) (hfirst : 0xD800 ≤ high ∧ high < 0xDC00)
      (hsecond : 0xDC00 ≤ low ∧ low < 0xE000)
      (hc : c.toNat = 0x10000 + (high - 0xD800) * 0x400 + (low - 0xDC00)) :
      Spells ('\\' :: 'u' :: ds ++ '\\' :: 'u' :: es) c

/-- The spellings of characters one after the other. -/
inductive SpellsAll : List Char → List Char → Prop
  | nil : SpellsAll [] []
  | cons {front back : List Char} {c : Char} {cs : List Char} (hc : Spells front c)
      (hcs : SpellsAll back cs) : SpellsAll (front ++ back) (c :: cs)

/-- The literals of a text. -/
def IsLiteral (cs : List Char) (text : String) : Prop :=
  ∃ inside, SpellsAll inside text.toList ∧ cs = '"' :: inside ++ ['"']

/-! ### Units -/

lemma IsHexDigit.lt (h : IsHexDigit c n) : n < 16 := by
  rcases h with h | h <;> exact (List.getElem?_eq_some_iff.1 h).1

lemma hexValue?_of_isHexDigit (h : IsHexDigit c n) : hexValue? c = some n := by
  have hvalue : ∀ n : Fin 16, hexValue? "0123456789abcdef".toList[n] = some n.val ∧
      hexValue? "0123456789ABCDEF".toList[n] = some n.val := by decide
  have hlt := h.lt
  rcases h with h | h <;> obtain ⟨_, rfl⟩ := List.getElem?_eq_some_iff.1 h
  · exact (hvalue ⟨n, hlt⟩).1
  · exact (hvalue ⟨n, hlt⟩).2

lemma hexValue?_eq_some_iff : hexValue? c = some n ↔ IsHexDigit c n := by
  refine ⟨fun h => ?_, hexValue?_of_isHexDigit⟩
  have hdigit : ∀ m ∈ Finset.Icc 48 57, IsHexDigit (Char.ofNat m) (m - 48) := by decide
  have hlower : ∀ m ∈ Finset.Icc 97 102, IsHexDigit (Char.ofNat m) (m - 97 + 10) := by decide
  have hupper : ∀ m ∈ Finset.Icc 65 70, IsHexDigit (Char.ofNat m) (m - 65 + 10) := by decide
  unfold hexValue? at h
  split_ifs at h with h₁ h₂ h₃ <;> cases h
  · simpa using hdigit c.toNat (Finset.mem_Icc.2 h₁)
  · simpa using hlower c.toNat (Finset.mem_Icc.2 h₂)
  · simpa using hupper c.toNat (Finset.mem_Icc.2 h₃)

lemma SpellsUnit.lt (h : SpellsUnit ds n) : n < 0x10000 := by
  obtain ⟨ha, hb, hc, hd⟩ := h
  have := ha.lt
  have := hb.lt
  have := hc.lt
  have := hd.lt
  omega

lemma unit?_eq_some_iff {a b c d : Char} : unit? a b c d = some n ↔ SpellsUnit [a, b, c, d] n := by
  constructor
  · intro h
    unfold unit? at h
    split at h
    · next w x y z ha hb hc hd =>
      rw [hexValue?_eq_some_iff] at ha hb hc hd
      obtain rfl : w * 4096 + x * 256 + y * 16 + z = n := by
        rw [← Option.some.inj h]
        ring
      exact .mk ha hb hc hd
    · cases h
  · rintro ⟨ha, hb, hc, hd⟩
    rw [← hexValue?_eq_some_iff] at ha hb hc hd
    simp only [unit?, ha, hb, hc, hd, Option.some_inj]
    ring

/-! ### Pieces -/

/-- The spellings of what one step of a reader finds. -/
inductive SpellsPiece : List Char → Piece → Prop
  | raw {c : Char} (hc : 0x20 ≤ c.toNat) (hquote : c ≠ '"') (hbackslash : c ≠ '\\') :
      SpellsPiece [c] (.char c)
  | short {letter c : Char} (hc : (letter, c) ∈ shortEscapes) :
      SpellsPiece ['\\', letter] (.char c)
  | unit {ds : List Char} {n : Nat} (hn : SpellsUnit ds n) :
      SpellsPiece ('\\' :: 'u' :: ds) (.unit n)

inductive SpellsPieces : List Char → List Piece → Prop
  | nil : SpellsPieces [] []
  | cons {front back : List Char} {piece : Piece} {pieces : List Piece}
      (hpiece : SpellsPiece front piece) (hpieces : SpellsPieces back pieces) :
      SpellsPieces (front ++ back) (piece :: pieces)

lemma shortEscape?_eq_some_iff {letter : Char} :
    shortEscape? letter = some c ↔ (letter, c) ∈ shortEscapes := by
  constructor
  · intro h
    unfold shortEscape? at h
    split at h <;> cases h <;> decide
  · intro h
    simp only [shortEscapes, List.mem_cons, Prod.mk.injEq, List.not_mem_nil, or_false] at h
    rcases h with ⟨rfl, rfl⟩ | ⟨rfl, rfl⟩ | ⟨rfl, rfl⟩ | ⟨rfl, rfl⟩ | ⟨rfl, rfl⟩ | ⟨rfl, rfl⟩ |
      ⟨rfl, rfl⟩ | ⟨rfl, rfl⟩ <;> rfl

lemma spellsPieces_of_scan (h : scan cs = some (pieces, rest)) :
    ∃ inside, SpellsPieces inside pieces ∧ cs = inside ++ '"' :: rest := by
  fun_induction scan cs generalizing pieces rest with
  | case1 => cases h
  | case2 rest' =>
    cases h
    exact ⟨[], .nil, rfl⟩
  | case3 a b c d cs n pieces' rest' hs hn ih =>
    cases h
    obtain ⟨inside, hinside, rfl⟩ := ih hs
    exact ⟨_, .cons (.unit (unit?_eq_some_iff.1 hn)) hinside, rfl⟩
  | case4 => cases h
  | case5 c cs hu c' pieces' rest' hs hc ih =>
    cases h
    obtain ⟨inside, hinside, rfl⟩ := ih hs
    exact ⟨_, .cons (.short (shortEscape?_eq_some_iff.1 hc)) hinside, rfl⟩
  | case6 => cases h
  | case7 => cases h
  | case8 c cs hquote _ hescape hc pieces' rest' hs ih =>
    cases h
    obtain ⟨inside, hinside, rfl⟩ := ih hs
    refine ⟨_, .cons (.raw (not_lt.1 hc) hquote fun hbackslash => ?_) hinside, rfl⟩
    -- Even the last character of a literal has the quotation mark behind it.
    cases inside with
    | nil => exact hescape _ _ hbackslash rfl
    | cons letter inside => exact hescape _ _ hbackslash rfl
  | case9 => cases h

/-- A piece in front of a text is what a reader finds first. -/
lemma scan_append (hpiece : SpellsPiece front piece) :
    scan (front ++ cs) = (scan cs).map fun (pieces, rest) => (piece :: pieces, rest) := by
  cases hpiece with
  | raw hc hquote hbackslash =>
    rw [List.singleton_append, scan.eq_5 _ _ hquote (fun _ _ _ _ _ h _ => hbackslash h)
      (fun _ _ h _ => hbackslash h), if_neg (not_lt.2 hc)]
    cases scan cs <;> rfl
  | @short letter c hc =>
    have hletter : letter ≠ 'u' := by
      rintro rfl
      simp [shortEscapes] at hc
    rw [List.cons_append, List.singleton_append,
      scan.eq_4 _ _ (fun _ _ _ _ _ h _ => hletter h), shortEscape?_eq_some_iff.2 hc]
    cases scan cs <;> rfl
  | unit hn =>
    obtain @⟨a, b, c, d, w, x, y, z, ha, hb, hc, hd⟩ := hn
    simp only [List.cons_append, List.nil_append, scan, unit?_eq_some_iff.2 (.mk ha hb hc hd)]
    cases scan cs <;> rfl

lemma scan_of_spellsPieces (h : SpellsPieces inside pieces) :
    scan (inside ++ '"' :: rest) = some (pieces, rest) := by
  induction h with
  | nil => rw [List.nil_append, scan]
  | cons hpiece hpieces ih => rw [List.append_assoc, scan_append hpiece, ih, Option.map_some]

lemma scan_eq_some_iff :
    scan cs = some (pieces, rest) ↔
      ∃ inside, SpellsPieces inside pieces ∧ cs = inside ++ '"' :: rest := by
  constructor
  · exact spellsPieces_of_scan
  · rintro ⟨inside, hinside, rfl⟩
    exact scan_of_spellsPieces hinside

/-- Characters have one list of pieces. -/
lemma SpellsPieces.unique {pieces' : List Piece} (h : SpellsPieces inside pieces)
    (h' : SpellsPieces inside pieces') : pieces = pieces' := by
  have hscan : scan (inside ++ ['"']) = some (pieces, []) := scan_of_spellsPieces h
  rw [scan_of_spellsPieces h'] at hscan
  exact (congrArg Prod.fst (Option.some.inj hscan)).symm

/-! ### Halves of surrogate pairs -/

lemma isHighHalf_iff : isHighHalf n = true ↔ 0xD800 ≤ n ∧ n < 0xDC00 := by
  simp [isHighHalf]

lemma isLowHalf_iff : isLowHalf n = true ↔ 0xDC00 ≤ n ∧ n < 0xE000 := by
  simp [isLowHalf]

lemma toNat_ofNat_of_whole (hlt : n < 0x10000) (hhigh : ¬isHighHalf n = true)
    (hlow : ¬isLowHalf n = true) : (Char.ofNat n).toNat = n := by
  rw [isHighHalf_iff] at hhigh
  rw [isLowHalf_iff] at hlow
  rw [Char.toNat_ofNat, if_pos]
  unfold Nat.isValidChar
  omega

lemma toNat_pairChar (hhigh : isHighHalf high = true) (hlow : isLowHalf low = true) :
    (pairChar high low).toNat = 0x10000 + (high - 0xD800) * 0x400 + (low - 0xDC00) := by
  rw [isHighHalf_iff] at hhigh
  rw [isLowHalf_iff] at hlow
  rw [pairChar, Char.toNat_ofNat, if_pos]
  unfold Nat.isValidChar
  omega

/-- The code point of a character is no half of a surrogate pair. -/
lemma not_half_toNat (c : Char) : ¬isHighHalf c.toNat = true ∧ ¬isLowHalf c.toNat = true := by
  have hvalid : c.toNat.isValidChar := c.valid
  rw [isHighHalf_iff, isLowHalf_iff]
  unfold Nat.isValidChar at hvalid
  omega

/-! ### Characters of pieces -/

lemma spells_ofNat (hn : SpellsUnit ds n) (hhigh : ¬isHighHalf n = true)
    (hlow : ¬isLowHalf n = true) : Spells ('\\' :: 'u' :: ds) (Char.ofNat n) := by
  apply Spells.unit
  rwa [toNat_ofNat_of_whole hn.lt hhigh hlow]

lemma spellsAll_of_merge (h : SpellsPieces inside pieces) (hmerge : merge pieces = some cs) :
    SpellsAll inside cs := by
  fun_induction merge pieces generalizing inside cs with
  | case1 =>
    cases h
    cases hmerge
    exact .nil
  | case2 c pieces ih =>
    obtain ⟨cs, hcs, rfl⟩ := Option.map_eq_some_iff.1 hmerge
    obtain _ | ⟨hpiece, hpieces⟩ := h
    refine .cons ?_ (ih hpieces hcs)
    cases hpiece with
    | raw hc hquote hbackslash => exact .raw hc hquote hbackslash
    | short hc => exact .short hc
  | case3 high low pieces hhigh hlow ih =>
    obtain ⟨cs, hcs, rfl⟩ := Option.map_eq_some_iff.1 hmerge
    obtain _ | ⟨⟨⟩ | ⟨⟩ | ⟨hfirst⟩, _ | ⟨⟨⟩ | ⟨⟩ | ⟨hsecond⟩, hpieces⟩⟩ := h
    rw [← List.append_assoc]
    exact .cons (.pair hfirst hsecond (isHighHalf_iff.1 hhigh) (isLowHalf_iff.1 hlow)
      (toNat_pairChar hhigh hlow)) (ih hpieces hcs)
  | case4 => cases hmerge
  | case5 => cases hmerge
  | case6 high low pieces hhigh hlow ih =>
    obtain ⟨cs, hcs, rfl⟩ := Option.map_eq_some_iff.1 hmerge
    obtain _ | ⟨⟨⟩ | ⟨⟩ | ⟨hfirst⟩, hpieces⟩ := h
    exact .cons (spells_ofNat hfirst hhigh hlow) (ih hpieces hcs)
  | case7 => cases hmerge
  | case8 n pieces _ hhalf ih =>
    obtain ⟨cs, hcs, rfl⟩ := Option.map_eq_some_iff.1 hmerge
    obtain _ | ⟨⟨⟩ | ⟨⟩ | ⟨hfirst⟩, hpieces⟩ := h
    rw [Bool.or_eq_true, not_or] at hhalf
    exact .cons (spells_ofNat hfirst hhalf.1 hhalf.2) (ih hpieces hcs)

lemma merge_unit_toNat (c : Char) (pieces : List Piece) :
    merge (.unit c.toNat :: pieces) = (merge pieces).map (c :: ·) := by
  obtain ⟨hhigh, hlow⟩ := not_half_toNat c
  rcases pieces with _ | ⟨d | low, pieces⟩
  · simp [merge, hhigh, hlow]
  · simp [merge, hhigh, hlow]
  · rw [merge, if_neg hhigh, if_neg hlow, Char.ofNat_toNat]

lemma exists_pieces (h : SpellsAll inside cs) :
    ∃ pieces, SpellsPieces inside pieces ∧ merge pieces = some cs := by
  induction h with
  | nil => exact ⟨[], .nil, rfl⟩
  | @cons front back c cs hc hcs ih =>
    obtain ⟨pieces, hpieces, hmerge⟩ := ih
    cases hc with
    | raw hc hquote hbackslash =>
      exact ⟨.char c :: pieces, .cons (.raw hc hquote hbackslash) hpieces, by simp [merge, hmerge]⟩
    | short hc => exact ⟨.char c :: pieces, .cons (.short hc) hpieces, by simp [merge, hmerge]⟩
    | unit hc =>
      exact ⟨.unit c.toNat :: pieces, .cons (.unit hc) hpieces, by simp [merge_unit_toNat, hmerge]⟩
    | @pair ds es high low _ hhigh hlow hfirst hsecond hc =>
      refine ⟨.unit high :: .unit low :: pieces, ?_, ?_⟩
      · rw [List.append_assoc]
        exact .cons (.unit hhigh) (.cons (.unit hlow) hpieces)
      · rw [merge, if_pos (isHighHalf_iff.2 hfirst), if_pos (isLowHalf_iff.2 hsecond), hmerge,
          Option.map_some, pairChar, ← hc, Char.ofNat_toNat]

lemma merge_eq_some_iff (h : SpellsPieces inside pieces) :
    merge pieces = some cs ↔ SpellsAll inside cs := by
  refine ⟨spellsAll_of_merge h, fun hcs => ?_⟩
  obtain ⟨pieces', hpieces, hmerge⟩ := exists_pieces hcs
  rwa [h.unique hpieces]

/-- The reader of literals accepts the spellings of texts and nothing else. -/
theorem scan_merge_eq_some_iff {text : String} :
    (∃ pieces, scan cs = some (pieces, rest) ∧ merge pieces = some text.toList) ↔
      ∃ inside, SpellsAll inside text.toList ∧ cs = inside ++ '"' :: rest := by
  constructor
  · rintro ⟨pieces, hscan, hmerge⟩
    obtain ⟨inside, hinside, rfl⟩ := scan_eq_some_iff.1 hscan
    exact ⟨inside, spellsAll_of_merge hinside hmerge, rfl⟩
  · rintro ⟨inside, hinside, rfl⟩
    obtain ⟨pieces, hpieces, hmerge⟩ := exists_pieces hinside
    exact ⟨pieces, scan_of_spellsPieces hpieces, hmerge⟩

/-! ### Writing -/

lemma isHexDigit_hexDigit (hn : n < 16) : IsHexDigit (hexDigit n) n := by
  revert n
  decide

/-- A character is written as one of its spellings. -/
lemma spells_escape (c : Char) : Spells (escape c) c := by
  unfold escape
  split
  iterate 7 exact .short (by decide)
  next hquote hbackslash _ _ _ _ _ =>
  split_ifs with hc
  · have hzero : IsHexDigit '0' 0 := by decide
    have hunit := SpellsUnit.mk hzero hzero
      (isHexDigit_hexDigit (n := c.toNat / 16) (by omega))
      (isHexDigit_hexDigit (n := c.toNat % 16) (by omega))
    have hvalue : 0 * 4096 + 0 * 256 + c.toNat / 16 * 16 + c.toNat % 16 = c.toNat := by omega
    rw [hvalue] at hunit
    exact .unit hunit
  · exact .raw (not_lt.1 hc) hquote hbackslash

lemma spellsAll_flatMap_escape (cs : List Char) : SpellsAll (cs.flatMap escape) cs := by
  induction cs with
  | nil => exact .nil
  | cons c cs ih => exact .cons (spells_escape c) ih

/-- A text is written as one of its literals. -/
lemma isLiteral_quote (text : String) : IsLiteral (quote text.toList) text :=
  ⟨_, spellsAll_flatMap_escape _, rfl⟩

end ShardedIndex.Json
