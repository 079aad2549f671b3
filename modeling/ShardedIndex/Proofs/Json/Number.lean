import ShardedIndex.Json.Token
import ShardedIndex.Proofs.Text.Numeral

/-!
# Spellings of a number

The grammar of numbers is given here part by part. The reader of numbers takes a spelling by this
grammar off a text, and it takes a whole spelling whenever the text behind it cannot continue a
number. A natural number has one spelling without a sign, a fraction and an exponent: its decimal
digits.
-/

namespace ShardedIndex.Json

open Text

variable {c : Char} {cs ds sign whole frac expo spelling rest : List Char} {n : Nat}

/-! ### Rules -/

/-- A whole part: a zero, or digits that do not start with one. -/
inductive IsWhole : List Char → Prop
  | zero : IsWhole ['0']
  | digits {c : Char} {ds : List Char} (hc : c.isDigit = true) (hne : c ≠ '0')
      (hds : ∀ d ∈ ds, d.isDigit = true) : IsWhole (c :: ds)

/-- A fraction, or none. -/
inductive IsFraction : List Char → Prop
  | none : IsFraction []
  | digits {ds : List Char} (hds : isDigits ds = true) : IsFraction ('.' :: ds)

/-- An exponent, or none. -/
inductive IsExponent : List Char → Prop
  | none : IsExponent []
  | digits {mark : Char} {sign ds : List Char} (hmark : mark = 'e' ∨ mark = 'E')
      (hsign : sign = [] ∨ sign = ['+'] ∨ sign = ['-']) (hds : isDigits ds = true) :
      IsExponent (mark :: sign ++ ds)

/-- The spellings of numbers. -/
inductive IsNumber : List Char → Prop
  | mk {sign whole frac expo : List Char} (hsign : sign = [] ∨ sign = ['-'])
      (hwhole : IsWhole whole) (hfrac : IsFraction frac) (hexpo : IsExponent expo) :
      IsNumber (sign ++ whole ++ frac ++ expo)

/-! ### A spelling in front of a text -/

/-- No number goes on with this text. -/
def EndsNumber (rest : List Char) : Prop :=
  ∀ c ∈ rest.head?, c.isDigit = false ∧ c ≠ '.' ∧ c ≠ 'e' ∧ c ≠ 'E'

lemma digits_append (hds : ∀ d ∈ ds, d.isDigit = true)
    (hrest : ∀ c ∈ rest.head?, c.isDigit = false) : digits (ds ++ rest) = (ds, rest) := by
  rw [digits, List.takeWhile_append_of_pos hds, List.dropWhile_append_of_pos hds]
  cases rest with
  | nil => simp
  | cons c rest =>
    have hc := hrest c rfl
    simp [hc]

lemma whole?_append (hwhole : IsWhole whole) (hrest : ∀ c ∈ rest.head?, c.isDigit = false) :
    whole? (whole ++ rest) = some (whole, rest) := by
  cases hwhole with
  | zero => rfl
  | digits hc hne hds =>
    rw [List.cons_append, whole?, if_pos hc, digits_append hds hrest]
    exact fun h => hne h

lemma fraction_append (hfrac : IsFraction frac)
    (hrest : ∀ c ∈ rest.head?, c.isDigit = false ∧ c ≠ '.') :
    fraction (frac ++ rest) = (frac, rest) := by
  cases hfrac with
  | none =>
    rw [List.nil_append]
    unfold fraction
    split
    · exact absurd rfl (hrest '.' rfl).2
    · rfl
  | digits hds =>
    obtain ⟨hne, hds⟩ := isDigits_iff.1 hds
    rw [List.cons_append, fraction, digits_append hds fun c hc => (hrest c hc).1]
    simp [hne]

lemma exponentSign_append (hsign : sign = [] ∨ sign = ['+'] ∨ sign = ['-'])
    (hds : isDigits ds = true) : exponentSign (sign ++ (ds ++ rest)) = (sign, ds ++ rest) := by
  rcases hsign with rfl | rfl | rfl
  · obtain ⟨hne, hdigits⟩ := isDigits_iff.1 hds
    obtain ⟨d, ds, rfl⟩ := List.exists_cons_of_ne_nil hne
    have hd := hdigits d List.mem_cons_self
    rw [List.nil_append, List.cons_append, exponentSign]
    · rintro _ ⟨⟩
      cases hd
    · rintro _ ⟨⟩
      cases hd
  · rfl
  · rfl

lemma exponent_append (hexpo : IsExponent expo) (hrest : EndsNumber rest) :
    exponent (expo ++ rest) = (expo, rest) := by
  cases hexpo with
  | none =>
    rw [List.nil_append]
    unfold exponent
    split
    · next c rest =>
      obtain ⟨-, -, he, hE⟩ := hrest c rfl
      rw [if_neg (not_or.2 ⟨he, hE⟩)]
    · rfl
  | digits hmark hsign hds =>
    obtain ⟨hne, hdigits⟩ := isDigits_iff.1 hds
    rw [List.append_assoc, List.cons_append, exponent, if_pos hmark]
    simp only [exponentSign_append hsign hds, digits_append hdigits fun c hc => (hrest c hc).1]
    simp [hne]

/-- What stands behind a whole part does not continue it. -/
lemma head?_exponent_append (hexpo : IsExponent expo) (hrest : EndsNumber rest) :
    ∀ c ∈ (expo ++ rest).head?, c.isDigit = false ∧ c ≠ '.' := by
  cases hexpo with
  | none => exact fun c hc => ⟨(hrest c hc).1, (hrest c hc).2.1⟩
  | digits hmark hsign hds =>
    rintro _ ⟨⟩
    rcases hmark with rfl | rfl <;> decide

lemma head?_fraction_append (hfrac : IsFraction frac)
    (hrest : ∀ c ∈ rest.head?, c.isDigit = false) :
    ∀ c ∈ (frac ++ rest).head?, c.isDigit = false := by
  cases hfrac with
  | none => exact hrest
  | digits hds =>
    rintro _ ⟨⟩
    rfl

lemma unsigned?_append (hwhole : IsWhole whole) (hfrac : IsFraction frac) (hexpo : IsExponent expo)
    (hrest : EndsNumber rest) :
    unsigned? (whole ++ (frac ++ (expo ++ rest))) = some (whole ++ frac ++ expo, rest) := by
  have hexponent := head?_exponent_append hexpo hrest
  have hfraction := head?_fraction_append hfrac fun c hc => (hexponent c hc).1
  rw [unsigned?, whole?_append hwhole hfraction]
  simp only [Option.map_some, fraction_append hfrac hexponent, exponent_append hexpo hrest]

/-- A spelling is taken off as a whole. -/
lemma number?_append (h : IsNumber spelling) (hrest : EndsNumber rest) :
    number? (spelling ++ rest) = some (spelling, rest) := by
  obtain ⟨hsign, hwhole, hfrac, hexpo⟩ := h
  have hunsigned := unsigned?_append hwhole hfrac hexpo hrest
  simp only [List.append_assoc]
  rcases hsign with rfl | rfl
  · rw [List.nil_append, number?, hunsigned]
    · simp
    · intro rest' h
      cases hwhole with
      | zero => cases h
      | digits hc =>
        cases h
        cases hc
  · rw [List.singleton_append, number?, hunsigned]
    simp

/-! ### Only spellings are taken off -/

lemma eq_digits_append (cs : List Char) : cs = (digits cs).1 ++ (digits cs).2 :=
  List.takeWhile_append_dropWhile.symm

lemma isDigit_of_mem_digits (hc : c ∈ (digits cs).1) : c.isDigit = true := List.mem_takeWhile_imp hc

lemma isWhole_of_whole? (h : whole? cs = some (whole, rest)) :
    IsWhole whole ∧ cs = whole ++ rest := by
  unfold whole? at h
  split at h
  · cases h
    exact ⟨.zero, rfl⟩
  · next c cs hne =>
    split_ifs at h with hc
    cases h
    refine ⟨.digits hc ?_ fun d => isDigit_of_mem_digits, ?_⟩
    · exact fun hzero => hne hzero
    · rw [List.cons_append, ← eq_digits_append]
  · cases h

lemma isFraction_fraction (cs : List Char) :
    IsFraction (fraction cs).1 ∧ cs = (fraction cs).1 ++ (fraction cs).2 := by
  unfold fraction
  split
  · next rest =>
    split_ifs with hempty
    · exact ⟨.none, rfl⟩
    · refine ⟨.digits (isDigits_iff.2 ⟨by simpa using hempty, fun d => isDigit_of_mem_digits⟩), ?_⟩
      rw [List.cons_append, ← eq_digits_append]
  · exact ⟨.none, rfl⟩

lemma exponentSign_spec (cs : List Char) :
    ((exponentSign cs).1 = [] ∨ (exponentSign cs).1 = ['+'] ∨ (exponentSign cs).1 = ['-']) ∧
      cs = (exponentSign cs).1 ++ (exponentSign cs).2 := by
  unfold exponentSign
  split <;> simp

lemma isExponent_exponent (cs : List Char) :
    IsExponent (exponent cs).1 ∧ cs = (exponent cs).1 ++ (exponent cs).2 := by
  unfold exponent
  split
  · next c rest =>
    split_ifs with hmark
    · simp only
      split_ifs with hempty
      · exact ⟨.none, rfl⟩
      · obtain ⟨hsign, hrest⟩ := exponentSign_spec rest
        have hds : isDigits (digits (exponentSign rest).2).1 = true :=
          isDigits_iff.2 ⟨by simpa using hempty, fun d => isDigit_of_mem_digits⟩
        refine ⟨.digits hmark hsign hds, ?_⟩
        rw [List.append_assoc, ← eq_digits_append, List.cons_append, ← hrest]
    · exact ⟨.none, rfl⟩
  · exact ⟨.none, rfl⟩

lemma exists_of_unsigned? (h : unsigned? cs = some (spelling, rest)) :
    ∃ whole frac expo, IsWhole whole ∧ IsFraction frac ∧ IsExponent expo ∧
      spelling = whole ++ frac ++ expo ∧ cs = spelling ++ rest := by
  simp only [unsigned?, Option.map_eq_some_iff, Prod.mk.injEq, Prod.exists] at h
  obtain ⟨whole, rest', h, rfl, rfl⟩ := h
  obtain ⟨hwhole, rfl⟩ := isWhole_of_whole? h
  obtain ⟨hfrac, hrest'⟩ := isFraction_fraction rest'
  obtain ⟨hexpo, hrest⟩ := isExponent_exponent (fraction rest').2
  refine ⟨_, _, _, hwhole, hfrac, hexpo, rfl, ?_⟩
  rw [List.append_assoc, ← hrest, List.append_assoc, ← hrest']

lemma isNumber_of_number? (h : number? cs = some (spelling, rest)) :
    IsNumber spelling ∧ cs = spelling ++ rest := by
  unfold number? at h
  split at h
  · obtain ⟨⟨spelling, rest'⟩, hunsigned, h⟩ := Option.map_eq_some_iff.1 h
    cases h
    obtain ⟨whole, frac, expo, hwhole, hfrac, hexpo, rfl, rfl⟩ := exists_of_unsigned? hunsigned
    exact ⟨.mk (.inr rfl) hwhole hfrac hexpo, rfl⟩
  · obtain ⟨whole, frac, expo, hwhole, hfrac, hexpo, rfl, rfl⟩ := exists_of_unsigned? h
    exact ⟨.mk (.inl rfl) hwhole hfrac hexpo, rfl⟩

/-! ### Number tokens -/

/-- No other token starts with a sign or a digit. -/
lemma token?_eq_number? (hc : c = '-' ∨ c.isDigit = true) : token? (c :: cs) =
    (number? (c :: cs)).map fun (spelling, rest) => (.number (String.ofList spelling), rest) := by
  unfold token?
  split
  case h_11 => rfl
  all_goals
    next h =>
    cases h
    exact absurd hc (by decide)

lemma IsNumber.exists_cons (h : IsNumber spelling) :
    ∃ c cs, spelling = c :: cs ∧ (c = '-' ∨ c.isDigit = true) := by
  obtain ⟨rfl | rfl, hwhole, -, -⟩ := h
  · cases hwhole with
    | zero => exact ⟨_, _, rfl, .inr rfl⟩
    | digits hc => exact ⟨_, _, rfl, .inr hc⟩
  · exact ⟨_, _, rfl, .inl rfl⟩

lemma token?_number_append (h : IsNumber spelling) (hrest : EndsNumber rest) :
    token? (spelling ++ rest) = some (.number (String.ofList spelling), rest) := by
  have hnumber := number?_append h hrest
  obtain ⟨c, cs, rfl, hc⟩ := h.exists_cons
  rw [List.cons_append] at hnumber ⊢
  rw [token?_eq_number? hc, hnumber, Option.map_some]

lemma exists_number_of_token? {text : String} (h : token? cs = some (.number text, rest)) :
    ∃ spelling, IsNumber spelling ∧ text = String.ofList spelling ∧ cs = spelling ++ rest := by
  unfold token? at h
  split at h
  case h_10 =>
    obtain ⟨_, _, h⟩ := Option.map_eq_some_iff.1 h
    cases h
  case h_11 =>
    obtain ⟨⟨spelling, rest⟩, hnumber, h⟩ := Option.map_eq_some_iff.1 h
    cases h
    obtain ⟨hspelling, rfl⟩ := isNumber_of_number? hnumber
    exact ⟨spelling, hspelling, rfl, rfl⟩
  all_goals cases h

/-! ### Natural numbers -/

lemma digitChar_of_isDigit (hc : c.isDigit = true) :
    c.toNat - 48 < 10 ∧ (c.toNat - 48).digitChar = c ∧ (c ≠ '0' → 0 < c.toNat - 48) := by
  obtain ⟨hlow, hhigh⟩ := bounds_of_isDigit hc
  have hlt : c.toNat - 48 < 10 := by omega
  refine ⟨hlt, ?_, fun hne => ?_⟩
  · rw [← Char.toNat_inj, Nat.toNat_digitChar_of_lt_ten hlt]
    omega
  · have : c.toNat ≠ '0'.toNat := fun h => hne (Char.toNat_inj.1 h)
    have : '0'.toNat = 48 := rfl
    omega

/-- Digits behind those of a positive number make those of another number. -/
lemma toDigits_append (hpos : 0 < n) (hds : ∀ d ∈ ds, d.isDigit = true) :
    Nat.toDigits 10 n ++ ds = Nat.toDigits 10 (Nat.ofDigitChars 10 ds n) := by
  induction ds generalizing n with
  | nil => simp
  | cons d ds ih =>
    obtain ⟨hlt, hd, -⟩ := digitChar_of_isDigit (hds d List.mem_cons_self)
    have hone : Nat.toDigits 10 n ++ [d] = Nat.toDigits 10 (10 * n + (d.toNat - 48)) := by
      rw [← Nat.toDigits_append_toDigits (by decide) hpos hlt, Nat.toDigits_of_lt_base hlt, hd]
    rw [List.append_cons, hone, ih (by omega) fun e he => hds e (List.mem_cons_of_mem _ he),
      Nat.ofDigitChars_cons]
    rfl

lemma IsWhole.exists_decimal (h : IsWhole cs) : ∃ n, cs = (decimal n).toList := by
  simp only [toList_decimal]
  cases h with
  | zero => exact ⟨0, rfl⟩
  | @digits c ds hc hne hds =>
    obtain ⟨hlt, hdigit, hpos⟩ := digitChar_of_isDigit hc
    refine ⟨Nat.ofDigitChars 10 ds (c.toNat - 48), ?_⟩
    rw [← toDigits_append (hpos hne) hds, Nat.toDigits_of_lt_base hlt, hdigit,
      List.singleton_append]

lemma IsWhole.concat (h : IsWhole cs) (hne : cs ≠ ['0']) (hc : c.isDigit = true) :
    IsWhole (cs ++ [c]) := by
  cases h with
  | zero => exact absurd rfl hne
  | digits hc' hne' hds =>
    refine .digits hc' hne' fun d hd => ?_
    rcases List.mem_append.1 hd with hd | hd
    · exact hds d hd
    · rwa [List.mem_singleton.1 hd]

lemma isWhole_decimal (n : Nat) : IsWhole (decimal n).toList := by
  induction n using Nat.strongRecOn with
  | _ n ih =>
    rw [toList_decimal, Nat.toDigits_eq_if (by decide)]
    split_ifs with hlt
    · by_cases hzero : n = 0
      · subst hzero
        exact .zero
      · refine .digits ?_ (mt Nat.digitChar_eq_zero.1 hzero) fun d hd => absurd hd List.not_mem_nil
        simpa [Nat.isDigit_digitChar] using hlt
    · have hfront : IsWhole (Nat.toDigits 10 (n / 10)) :=
        toList_decimal (n / 10) ▸ ih (n / 10) (by omega)
      refine hfront.concat (fun hone => ?_) ?_
      · have hvalue := congrArg (Nat.ofDigitChars 10 · 0) (hone.trans (Nat.toDigits_zero 10).symm)
        simp only [Nat.ofDigitChars_ten_toDigits] at hvalue
        omega
      · simpa [Nat.isDigit_digitChar] using Nat.mod_lt n (by decide)

lemma isNumber_decimal (n : Nat) : IsNumber (decimal n).toList := by
  simpa using IsNumber.mk (.inl rfl) (isWhole_decimal n) .none .none

/-- A number is a natural number in its decimal digits, or it has a sign, a fraction or an
exponent. -/
lemma IsNumber.exists_decimal (h : IsNumber cs) :
    (∃ n, cs = (decimal n).toList) ∨ ∃ c ∈ ['-', '.', 'e', 'E'], c ∈ cs := by
  obtain ⟨rfl | rfl, hwhole, _ | _, _ | ⟨hmark, -, -⟩⟩ := h
  · left
    simpa using hwhole.exists_decimal
  · right
    rcases hmark with rfl | rfl <;> simp
  all_goals
    right
    simp

/-- The only spelling of a number in digits alone is its decimal text. -/
lemma IsNumber.eq_decimal (h : IsNumber cs) (hcs : isDigits cs = true) :
    cs = (decimal (digitsValue cs)).toList := by
  rcases h.exists_decimal with ⟨n, rfl⟩ | ⟨c, hc, hmem⟩
  · rw [digitsValue_decimal]
  · have hdigit := (isDigits_iff.1 hcs).2 c hmem
    fin_cases hc <;> cases hdigit

end ShardedIndex.Json
