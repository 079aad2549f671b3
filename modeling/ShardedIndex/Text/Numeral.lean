/-!
# Numerals and blanks

Natural numbers written in decimal digits. `decimal` writes a number without a sign or leading
zeros; `readBelow` reads an optional `+` and one or more ASCII digits, leading zeros allowed, and
refuses a number that reaches a limit. `trim` takes away the blanks around a text, the characters
with the Unicode property White_Space.
-/

namespace ShardedIndex.Text

/-! ### Numerals -/

def decimal (n : Nat) : String := toString n

/-- The number that a list of decimal digits denotes. -/
def digitsValue (digits : List Char) : Nat := Nat.ofDigitChars 10 digits 0

/-- The text after its optional plus sign. -/
def afterPlus : List Char → List Char
  | '+' :: digits => digits
  | digits        => digits

/-- Whether a text is a non-empty run of ASCII digits. -/
def isDigits (cs : List Char) : Bool := !cs.isEmpty && cs.all Char.isDigit

/-- The number below `limit` that a text denotes; nothing for any other text. -/
def readBelow (limit : Nat) (cs : List Char) : Option Nat :=
  let digits := afterPlus cs
  if isDigits digits ∧ digitsValue digits < limit then some (digitsValue digits) else none

theorem lt_of_readBelow {limit n : Nat} {cs : List Char} (h : readBelow limit cs = some n) :
    n < limit := by
  simp only [readBelow] at h
  split at h
  · next hd => cases h; exact hd.2
  · cases h

/-- The number of words of 64 bits, the bound of a count. -/
abbrev wordLimit : Nat := 18446744073709551616

/-- The number of words of 32 bits, the bound of a percentage. -/
abbrev halfWordLimit : Nat := 4294967296

/-! ### Blanks -/

/-- The ranges of code points with the property White_Space, both ends included. -/
def blankRanges : List (Nat × Nat) :=
  [(0x09, 0x0D), (0x20, 0x20), (0x85, 0x85), (0xA0, 0xA0), (0x1680, 0x1680), (0x2000, 0x200A),
    (0x2028, 0x2029), (0x202F, 0x202F), (0x205F, 0x205F), (0x3000, 0x3000)]

def isBlank (c : Char) : Bool :=
  blankRanges.any fun (low, high) => low ≤ c.toNat && c.toNat ≤ high

/-- A text without the blanks at its two ends. -/
def trim (cs : List Char) : List Char :=
  ((cs.dropWhile isBlank).reverse.dropWhile isBlank).reverse

end ShardedIndex.Text
