import ShardedIndex.Random.Keystream

/-!
# Sampling

A random source yields indices below a bound. Generation is written for every such source, so it
rests on nothing but the bound.

The source that is used turns words into uniform indices by a widening product and rejection: of
the product of a word and the bound, the high half is the index, and a word whose low half lies
outside a whole number of copies of the bound is passed over.
-/

namespace ShardedIndex

/-! ### Indices -/

/-- How many random bits an index is made of. -/
inductive Width
  /-- 32 bits. -/
  | narrow
  /-- 64 bits. -/
  | wide
  deriving DecidableEq, Repr

def Width.bits : Width → Nat
  | narrow => 32
  | wide   => 64

/-- How many words of a width there are. -/
def Width.count : Width → Nat
  | narrow => 4294967296
  | wide   => 18446744073709551616

/-- A source of random indices; each draw also gives the source after it. -/
class RandomSource (σ : Type) where
  index (width : Width) (n : Nat) (pos : 0 < n) (source : σ) : Fin n × σ

/-! ### Words -/

/-- A source of random words. -/
inductive WordSource
  /-- The words of a keystream. -/
  | stream (place : Keystream)
  /-- Given words, one for each draw, then zeros. -/
  | script (words : List UInt64)

namespace WordSource

def ofSeed (seed : UInt64) : WordSource := .stream (.ofSeed seed)

/-- A random word of `width.bits` bits. A stream gives the low half of a wide word first; a given
word loses its high bits in a narrow draw. -/
def draw (width : Width) : WordSource → Fin width.count × WordSource
  | stream place =>
    match width with
    | .narrow =>
      let (word, place) := place.next
      (word.toFin, stream place)
    | .wide   =>
      let (low, place) := place.next
      let (high, place) := place.next
      ((high.toUInt64 <<< 32 ||| low.toUInt64).toFin, stream place)
  | script words =>
    match width, words with
    | .narrow, word :: rest => (word.toUInt32.toFin, script rest)
    | .wide, word :: rest   => (word.toFin, script rest)
    | .narrow, []           => ((0 : UInt32).toFin, script [])
    | .wide, []             => ((0 : UInt64).toFin, script [])

/-- The largest low half that is kept: the bound is doubled as often as it fits. -/
def keptUpTo (width : Width) (n : Nat) : Nat := n <<< (width.bits - 1 - n.log2) - 1

/-- The index of a word, if the word is kept. -/
def indexOf? {width : Width} (n : Nat) (word : Fin width.count) : Option (Fin n) :=
  if word.val * n % width.count ≤ keptUpTo width n then
    if h : word.val * n / width.count < n then some ⟨_, h⟩ else none
  else none

/-- Draw until a word is kept; index zero when none of `patience` words is. -/
def sample (width : Width) (n : Nat) (pos : 0 < n) : Nat → WordSource → Fin n × WordSource
  | 0, source            => (⟨0, pos⟩, source)
  | patience + 1, source =>
    let (word, source) := source.draw width
    match indexOf? n word with
    | some i => (i, source)
    | none   => sample width n pos patience source

/-- How many words may be drawn for one index. A script ends in zeros and a zero is always kept. Of
a stream more than half of the words are kept, so that a longer wait does not occur. -/
def patience : WordSource → Nat
  | stream _     => 4096
  | script words => words.length + 1

instance : RandomSource WordSource where
  index width n pos source := source.sample width n pos source.patience

end WordSource

end ShardedIndex
