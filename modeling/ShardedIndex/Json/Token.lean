import ShardedIndex.Json.Literal

/-!
# Tokens of JSON

`tokens?` cuts a text into tokens and drops the blanks between them. A number is kept as it is
written. A string is kept as the text it denotes, or as `none` when an escape in it stands for half
of a surrogate pair.
-/

namespace ShardedIndex.Json

/-- The text of a string literal; `none` when it denotes no sequence of characters. -/
abbrev Content := Option String

inductive Token
  | openObject
  | closeObject
  | openArray
  | closeArray
  | colon
  | comma
  | null
  | bool (value : Bool)
  | number (spelling : String)
  | string (content : Content)
  deriving DecidableEq, Repr

/-- The characters that may stand between tokens. -/
def isSpace (c : Char) : Bool := c == ' ' || c == '\t' || c == '\n' || c == '\r'

/-! ### Numbers -/

/-- The digits in front of a text and the text after them. -/
def digits (cs : List Char) : List Char × List Char :=
  (cs.takeWhile Char.isDigit, cs.dropWhile Char.isDigit)

/-- The whole part of a number: a zero, or digits that do not start with one. -/
def whole? : List Char → Option (List Char × List Char)
  | '0' :: rest => some (['0'], rest)
  | c :: rest   => if c.isDigit then some (c :: (digits rest).1, (digits rest).2) else none
  | []          => none

/-- A fraction, if one follows. -/
def fraction (cs : List Char) : List Char × List Char :=
  match cs with
  | '.' :: rest =>
    if (digits rest).1.isEmpty then ([], cs) else ('.' :: (digits rest).1, (digits rest).2)
  | _           => ([], cs)

/-- The sign of an exponent, if one follows. -/
def exponentSign : List Char → List Char × List Char
  | '+' :: rest => (['+'], rest)
  | '-' :: rest => (['-'], rest)
  | rest        => ([], rest)

/-- An exponent, if one follows. -/
def exponent (cs : List Char) : List Char × List Char :=
  match cs with
  | c :: rest =>
    if c = 'e' ∨ c = 'E' then
      let (sign, rest) := exponentSign rest
      if (digits rest).1.isEmpty then ([], cs) else (c :: sign ++ (digits rest).1, (digits rest).2)
    else ([], cs)
  | [] => ([], cs)

/-- The spelling of a number without a sign, and the text after it. -/
def unsigned? (cs : List Char) : Option (List Char × List Char) :=
  (whole? cs).map fun (whole, rest) =>
    let (fraction, rest) := fraction rest
    let (exponent, rest) := exponent rest
    (whole ++ fraction ++ exponent, rest)

/-- The spelling of a number and the text after it. -/
def number? (cs : List Char) : Option (List Char × List Char) :=
  match cs with
  | '-' :: rest => (unsigned? rest).map fun (spelling, rest) => ('-' :: spelling, rest)
  | _           => unsigned? cs

/-! ### Tokens -/

/-- The token in front of a text and the text after it. -/
def token? : List Char → Option (Token × List Char)
  | '{' :: rest                             => some (.openObject, rest)
  | '}' :: rest                             => some (.closeObject, rest)
  | '[' :: rest                             => some (.openArray, rest)
  | ']' :: rest                             => some (.closeArray, rest)
  | ':' :: rest                             => some (.colon, rest)
  | ',' :: rest                             => some (.comma, rest)
  | 'n' :: 'u' :: 'l' :: 'l' :: rest        => some (.null, rest)
  | 't' :: 'r' :: 'u' :: 'e' :: rest        => some (.bool true, rest)
  | 'f' :: 'a' :: 'l' :: 's' :: 'e' :: rest => some (.bool false, rest)
  | '"' :: rest                             =>
    (scan rest).map fun (pieces, rest) => (.string ((merge pieces).map String.ofList), rest)
  | cs                                      =>
    (number? cs).map fun (spelling, rest) => (.number (String.ofList spelling), rest)

theorem length_digits (cs : List Char) : (digits cs).2.length ≤ cs.length :=
  (List.dropWhile_suffix _).length_le

theorem length_whole? {cs whole rest : List Char} (h : whole? cs = some (whole, rest)) :
    rest.length < cs.length := by
  unfold whole? at h
  split at h
  · cases h; simp
  · next c cs _ =>
    split at h
    · cases h
      have := length_digits cs
      simp only [List.length_cons]
      omega
    · cases h
  · cases h

theorem length_fraction (cs : List Char) : (fraction cs).2.length ≤ cs.length := by
  unfold fraction
  split
  · next rest =>
    have := length_digits rest
    split <;> simp only [List.length_cons] <;> omega
  · simp

theorem length_exponentSign (cs : List Char) : (exponentSign cs).2.length ≤ cs.length := by
  unfold exponentSign
  split <;> simp

theorem length_exponent (cs : List Char) : (exponent cs).2.length ≤ cs.length := by
  unfold exponent
  split
  · next c rest =>
    have := length_exponentSign rest
    have := length_digits (exponentSign rest).2
    split
    · simp only
      split <;> simp only [List.length_cons] <;> omega
    · simp
  · simp

theorem length_unsigned? {cs spelling rest : List Char} (h : unsigned? cs = some (spelling, rest)) :
    rest.length < cs.length := by
  simp only [unsigned?, Option.map_eq_some_iff, Prod.mk.injEq, Prod.exists] at h
  obtain ⟨whole, rest', hw, -, rfl⟩ := h
  have := length_whole? hw
  have := length_fraction rest'
  have := length_exponent (fraction rest').2
  omega

theorem length_number? {cs spelling rest : List Char} (h : number? cs = some (spelling, rest)) :
    rest.length < cs.length := by
  unfold number? at h
  split at h
  · simp only [Option.map_eq_some_iff, Prod.mk.injEq, Prod.exists] at h
    obtain ⟨_, _, h, -, rfl⟩ := h
    have := length_unsigned? h
    simp only [List.length_cons]
    omega
  · exact length_unsigned? h

theorem length_token? {cs rest : List Char} {t : Token} (h : token? cs = some (t, rest)) :
    rest.length < cs.length := by
  unfold token? at h
  split at h
  case h_10 =>
    simp only [Option.map_eq_some_iff, Prod.mk.injEq, Prod.exists] at h
    obtain ⟨_, _, h, -, rfl⟩ := h
    have := length_lt_of_scan h
    simp only [List.length_cons]
    omega
  case h_11 =>
    simp only [Option.map_eq_some_iff, Prod.mk.injEq, Prod.exists] at h
    obtain ⟨_, _, h, -, rfl⟩ := h
    exact length_number? h
  all_goals cases h; simp only [List.length_cons]; omega

/-- The tokens of a text; nothing when some part of it is no token. -/
def tokens? (cs : List Char) : Option (List Token) :=
  match cs.dropWhile isSpace with
  | []     => some []
  | _ :: _ =>
    match _h : token? (cs.dropWhile isSpace) with
    | none           => none
    | some (t, rest) => (tokens? rest).map (t :: ·)
termination_by cs.length
decreasing_by
  have := length_token? _h
  have := (List.dropWhile_suffix (l := cs) isSpace).length_le
  omega

end ShardedIndex.Json
