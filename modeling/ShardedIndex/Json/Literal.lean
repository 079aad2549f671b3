/-!
# String literals of JSON

`quote` writes a text between quotation marks, with the short escapes where there are some and
`\u00xx` for the other control characters. `scan` reads the inside of a literal into pieces and
`merge` joins the pieces into characters: an escape for half of a surrogate pair only counts next to
its other half.
-/

namespace ShardedIndex.Json

/-! ### Writing -/

/-- The lower-case hexadecimal digit of a number below 16. -/
def hexDigit (n : Nat) : Char :=
  if n < 10 then Char.ofNat ('0'.toNat + n) else Char.ofNat ('a'.toNat + (n - 10))

/-- A character as it stands inside a literal. -/
def escape (c : Char) : List Char :=
  match c with
  | '"'    => ['\\', '"']
  | '\\'   => ['\\', '\\']
  | '\x08' => ['\\', 'b']
  | '\t'   => ['\\', 't']
  | '\n'   => ['\\', 'n']
  | '\x0c' => ['\\', 'f']
  | '\r'   => ['\\', 'r']
  | c      =>
    if c.toNat < 0x20 then
      ['\\', 'u', '0', '0', hexDigit (c.toNat / 16), hexDigit (c.toNat % 16)]
    else [c]

/-- The literal of a text. -/
def quote (cs : List Char) : List Char := '"' :: cs.flatMap escape ++ ['"']

/-! ### Reading -/

/-- What one step of reading a literal finds: a character, or the 16-bit unit of an escape. -/
inductive Piece
  | char (c : Char)
  | unit (n : Nat)
  deriving DecidableEq, Repr

/-- The value of a hexadecimal digit of either case. -/
def hexValue? (c : Char) : Option Nat :=
  if '0' ≤ c ∧ c ≤ '9' then some (c.toNat - '0'.toNat)
  else if 'a' ≤ c ∧ c ≤ 'f' then some (c.toNat - 'a'.toNat + 10)
  else if 'A' ≤ c ∧ c ≤ 'F' then some (c.toNat - 'A'.toNat + 10)
  else none

/-- The 16-bit unit that four hexadecimal digits denote. -/
def unit? (a b c d : Char) : Option Nat :=
  match hexValue? a, hexValue? b, hexValue? c, hexValue? d with
  | some a, some b, some c, some d => some (((a * 16 + b) * 16 + c) * 16 + d)
  | _, _, _, _                     => none

/-- The character that a backslash and one letter stand for. -/
def shortEscape? : Char → Option Char
  | '"'  => some '"'
  | '\\' => some '\\'
  | '/'  => some '/'
  | 'b'  => some '\x08'
  | 'f'  => some '\x0c'
  | 'n'  => some '\n'
  | 'r'  => some '\r'
  | 't'  => some '\t'
  | _    => none

/-- The pieces up to the closing quotation mark and the text after it. Raw control characters and
unknown escapes are refused. -/
def scan : List Char → Option (List Piece × List Char)
  | []          => none
  | '"' :: rest => some ([], rest)
  | '\\' :: 'u' :: a :: b :: c :: d :: rest =>
    match unit? a b c d, scan rest with
    | some n, some (pieces, rest) => some (.unit n :: pieces, rest)
    | _, _                        => none
  | '\\' :: c :: rest =>
    match shortEscape? c, scan rest with
    | some c, some (pieces, rest) => some (.char c :: pieces, rest)
    | _, _                        => none
  | c :: rest =>
    if c.toNat < 0x20 then none
    else
      match scan rest with
      | some (pieces, rest) => some (.char c :: pieces, rest)
      | none                => none

/-- Whether a unit is the first half of a surrogate pair. -/
def isHighHalf (n : Nat) : Bool := 0xD800 ≤ n && n < 0xDC00

/-- Whether a unit is the second half of a surrogate pair. -/
def isLowHalf (n : Nat) : Bool := 0xDC00 ≤ n && n < 0xE000

/-- The character of a surrogate pair. -/
def pairChar (high low : Nat) : Char :=
  Char.ofNat (0x10000 + (high - 0xD800) * 0x400 + (low - 0xDC00))

/-- The characters that pieces denote; nothing when a half of a surrogate pair stands alone. -/
def merge : List Piece → Option (List Char)
  | []                              => some []
  | .char c :: rest                 => (merge rest).map (c :: ·)
  | .unit high :: .unit low :: rest =>
    if isHighHalf high then
      if isLowHalf low then (merge rest).map (pairChar high low :: ·) else none
    else if isLowHalf high then none
    else (merge (.unit low :: rest)).map (Char.ofNat high :: ·)
  | .unit n :: rest                 =>
    if isHighHalf n || isLowHalf n then none else (merge rest).map (Char.ofNat n :: ·)

theorem length_lt_of_scan {cs rest : List Char} {pieces : List Piece}
    (h : scan cs = some (pieces, rest)) : rest.length < cs.length := by
  fun_induction scan cs generalizing pieces rest with
  | case1 => cases h
  | case2 => cases h; simp
  | case3 a b c d cs n pieces' rest' hs hn ih =>
    cases h
    have := ih hs
    simp only [List.length_cons]
    omega
  | case4 => cases h
  | case5 c cs hu c' pieces' rest' hs hc ih =>
    cases h
    have := ih hs
    simp only [List.length_cons]
    omega
  | case6 => cases h
  | case7 => cases h
  | case8 c cs _ _ _ hc pieces' rest' hs ih =>
    cases h
    have := ih hs
    simp only [List.length_cons]
    omega
  | case9 => cases h

end ShardedIndex.Json
