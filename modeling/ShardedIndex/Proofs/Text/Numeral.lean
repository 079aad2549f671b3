import Mathlib
import ShardedIndex.Text.Numeral

/-!
# Numerals and blanks read back

A number in decimal digits reads back as that number, also through the removal of blanks, and what
reads as a number is one in decimal digits. The removal of blanks undoes the addition of white space
at the two ends of a text, and does nothing else.
-/

namespace ShardedIndex.Text

variable {c : Char} {cs before core after : List Char} {limit n : Nat}

lemma bounds_of_isDigit (hc : c.isDigit = true) : 48 ≤ c.toNat ∧ c.toNat ≤ 57 := by
  simp only [Char.isDigit, Bool.and_eq_true, decide_eq_true_eq, ge_iff_le, UInt32.le_iff_toNat_le]
    at hc
  exact hc

lemma toList_decimal (n : Nat) : (decimal n).toList = Nat.toDigits 10 n := by
  rw [decimal, Nat.toString_eq_repr, Nat.toList_repr]

lemma isDigit_of_mem_decimal (hc : c ∈ (decimal n).toList) : c.isDigit = true :=
  Nat.isDigit_of_mem_toDigits (by decide) le_rfl (toList_decimal n ▸ hc)

lemma isDigits_decimal (n : Nat) : isDigits (decimal n).toList = true := by
  have hne : (decimal n).toList ≠ [] := toList_decimal n ▸ Nat.toDigits_ne_nil
  simp only [isDigits, Bool.and_eq_true, Bool.not_eq_true', List.isEmpty_eq_false_iff,
    List.all_eq_true]
  exact ⟨hne, fun c => isDigit_of_mem_decimal⟩

/-- Digits have no sign in front of them. -/
lemma afterPlus_of_isDigits (hcs : isDigits cs = true) : afterPlus cs = cs := by
  unfold afterPlus
  split
  · simp [isDigits] at hcs
  · rfl

lemma digitsValue_decimal (n : Nat) : digitsValue (decimal n).toList = n := by
  rw [digitsValue, toList_decimal, Nat.ofDigitChars_ten_toDigits]

/-- A number below the limit reads back. -/
lemma readBelow_decimal (hlt : n < limit) : readBelow limit (decimal n).toList = some n := by
  simp only [readBelow, afterPlus_of_isDigits (isDigits_decimal n), isDigits_decimal n,
    digitsValue_decimal, hlt, and_self, if_true]

/-! ### Texts of a number -/

/-- The text of a number: one or more decimal digits, behind a plus sign or not. There may be more
zeros in front than the number needs. -/
def Denotes (cs : List Char) (n : Nat) : Prop :=
  ∃ digits, (cs = digits ∨ cs = '+' :: digits) ∧ digits ≠ [] ∧
    (∀ c ∈ digits, c.isDigit = true) ∧ Nat.ofDigitChars 10 digits 0 = n

lemma isDigits_iff : isDigits cs = true ↔ cs ≠ [] ∧ ∀ c ∈ cs, c.isDigit = true := by
  simp only [isDigits, Bool.and_eq_true, Bool.not_eq_true', List.isEmpty_eq_false_iff,
    List.all_eq_true]

lemma denotes_iff : Denotes cs n ↔
    isDigits (afterPlus cs) = true ∧ digitsValue (afterPlus cs) = n := by
  rw [isDigits_iff, digitsValue, and_assoc]
  constructor
  · rintro ⟨digits, rfl | rfl, hne, hdigits, hn⟩
    · rw [afterPlus_of_isDigits (isDigits_iff.2 ⟨hne, hdigits⟩)]
      exact ⟨hne, hdigits, hn⟩
    · exact ⟨hne, hdigits, hn⟩
  · intro h
    refine ⟨afterPlus cs, ?_, h⟩
    unfold afterPlus
    split
    · exact .inr rfl
    · exact .inl rfl

lemma Denotes.unique {m : Nat} (hm : Denotes cs m) (hn : Denotes cs n) : m = n :=
  (denotes_iff.1 hm).2.symm.trans (denotes_iff.1 hn).2

lemma denotes_digitsValue (hcs : isDigits cs = true) : Denotes cs (digitsValue cs) := by
  rw [denotes_iff, afterPlus_of_isDigits hcs]
  exact ⟨hcs, rfl⟩

lemma denotes_decimal (n : Nat) : Denotes (decimal n).toList n := by
  have h := denotes_digitsValue (isDigits_decimal n)
  rwa [digitsValue_decimal] at h

lemma readBelow_eq_some_iff : readBelow limit cs = some n ↔ Denotes cs n ∧ n < limit := by
  rw [denotes_iff]
  simp only [readBelow]
  split_ifs with h
  · simp only [Option.some.injEq, h.1, true_and]
    exact ⟨fun heq => ⟨heq, heq ▸ h.2⟩, fun heq => heq.1⟩
  · simp only [false_iff]
    rintro ⟨⟨hdigits, rfl⟩, hlt⟩
    exact h ⟨hdigits, hlt⟩

/-! ### Blanks -/

lemma isBlank_of_isDigit (hc : c.isDigit = true) : isBlank c = false := by
  obtain ⟨hlow, hhigh⟩ := bounds_of_isDigit hc
  simp only [isBlank, blankRanges, List.any_cons, List.any_nil, Bool.or_eq_false_iff,
    Bool.and_eq_false_iff, decide_eq_false_iff_not, and_true]
  omega

lemma Denotes.not_isBlank (h : Denotes cs n) : ∀ c ∈ cs, isBlank c = false := by
  obtain ⟨digits, hcs, -, hdigits, -⟩ := h
  have hblank : ∀ c ∈ digits, isBlank c = false := fun c hc => isBlank_of_isDigit (hdigits c hc)
  rcases hcs with rfl | rfl
  · exact hblank
  · exact List.forall_mem_cons.2 ⟨by decide, hblank⟩

/-- A text without blanks stays as it is. -/
lemma trim_of_forall_not_isBlank (hcs : ∀ c ∈ cs, isBlank c = false) : trim cs = cs := by
  have hkeep {ds : List Char} (hds : ∀ c ∈ ds, isBlank c = false) : ds.dropWhile isBlank = ds := by
    rw [List.dropWhile_eq_self_iff]
    intro hpos
    rw [hds _ (List.getElem_mem hpos)]
    exact Bool.false_ne_true
  rw [trim, hkeep hcs, hkeep (by simpa using hcs), List.reverse_reverse]

lemma trim_decimal (n : Nat) : trim (decimal n).toList = (decimal n).toList :=
  trim_of_forall_not_isBlank fun _ hc => isBlank_of_isDigit (isDigit_of_mem_decimal hc)

/-! ### White space -/

/-- The characters with the property White_Space, one by one. -/
def whiteSpace : List Char :=
  ['\t', '\n', '\x0b', '\x0c', '\r', ' ', '\u0085', '\u00a0', '\u1680', '\u2000', '\u2001',
    '\u2002', '\u2003', '\u2004', '\u2005', '\u2006', '\u2007', '\u2008', '\u2009', '\u200a',
    '\u2028', '\u2029', '\u202f', '\u205f', '\u3000']

lemma isBlank_iff : isBlank c = true ↔ c ∈ whiteSpace := by
  have hcodes : whiteSpace.map Char.toNat = [0x09, 0x0A, 0x0B, 0x0C, 0x0D, 0x20, 0x85, 0xA0, 0x1680,
      0x2000, 0x2001, 0x2002, 0x2003, 0x2004, 0x2005, 0x2006, 0x2007, 0x2008, 0x2009, 0x200A,
      0x2028, 0x2029, 0x202F, 0x205F, 0x3000] := by decide
  rw [← List.mem_map_of_injective (f := Char.toNat) fun _ _ => Char.toNat_inj.1, hcodes]
  simp only [isBlank, blankRanges, List.any_cons, List.any_nil, List.mem_cons, List.not_mem_nil,
    Bool.or_eq_true, Bool.and_eq_true, decide_eq_true_eq, Bool.false_eq_true, or_false]
  omega

/-- A text with white space in front of it and behind it. -/
def IsPadded (cs core : List Char) : Prop :=
  ∃ before after, (∀ c ∈ before, c ∈ whiteSpace) ∧ (∀ c ∈ after, c ∈ whiteSpace) ∧
    cs = before ++ core ++ after

/-! ### Trimming -/

lemma isPadded_trim (cs : List Char) : IsPadded cs (trim cs) := by
  refine ⟨cs.takeWhile isBlank, (cs.dropWhile isBlank).rtakeWhile isBlank, ?_, ?_, ?_⟩
  · intro c hc
    exact isBlank_iff.1 (List.mem_takeWhile_imp hc)
  · intro c hc
    exact isBlank_iff.1 (List.mem_rtakeWhile_imp hc)
  · have htrim : trim cs = (cs.dropWhile isBlank).rdropWhile isBlank := rfl
    rw [htrim, List.append_assoc, List.rdropWhile_append_rtakeWhile,
      List.takeWhile_append_dropWhile]

lemma trim_append_left (hbefore : ∀ c ∈ before, c ∈ whiteSpace) :
    trim (before ++ cs) = trim cs := by
  rw [trim, List.dropWhile_append_of_pos fun c hc => isBlank_iff.2 (hbefore c hc), trim]

lemma trim_append_right (hafter : ∀ c ∈ after, c ∈ whiteSpace) : trim (cs ++ after) = trim cs := by
  have hblank {c : Char} (hc : c ∈ after) : isBlank c = true := isBlank_iff.2 (hafter c hc)
  rw [trim, trim, List.dropWhile_append]
  split_ifs with hempty
  · rw [List.isEmpty_iff.1 hempty, List.dropWhile_eq_nil_iff.2 fun c => hblank]
  · rw [List.reverse_append,
      List.dropWhile_append_of_pos fun c hc => hblank (List.mem_reverse.1 hc)]

lemma trim_of_isPadded (h : IsPadded cs core) : trim cs = trim core := by
  obtain ⟨before, after, hbefore, hafter, rfl⟩ := h
  rw [trim_append_right hafter, trim_append_left hbefore]

end ShardedIndex.Text
