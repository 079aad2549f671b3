/-!
# Keystream

The stream of 32-bit words of the ChaCha cipher with 12 rounds, keyed from a 64-bit seed. The key
words come out of a linear congruential generator whose state is permuted by a shift, an exclusive
or and a rotation.
-/

namespace ShardedIndex.Keystream

/-! ### Key -/

/-- The next state of the generator of key words. -/
def advance (state : UInt64) : UInt64 := state * 6364136223846793005 + 11634580027462260723

/-- A word rotated to the right, by a number of bits below 32. -/
def rotateRight (word bits : UInt32) : UInt32 := (word >>> bits) ||| (word <<< (32 - bits))

/-- A word rotated to the left, by a number of bits below 32. -/
def rotateLeft (word bits : UInt32) : UInt32 := (word <<< bits) ||| (word >>> (32 - bits))

/-- The key word of a generator state. -/
def permuted (state : UInt64) : UInt32 :=
  rotateRight (((state >>> 18) ^^^ state) >>> 27).toUInt32 (state >>> 59).toUInt32

/-- The states that follow a state. -/
def statesFrom : Nat → UInt64 → List UInt64
  | 0, _         => []
  | n + 1, state => advance state :: statesFrom n (advance state)

/-- The eight key words of a seed. -/
def keyOf (seed : UInt64) : List UInt32 := (statesFrom 8 seed).map permuted

/-! ### Blocks -/

/-- The sixteen words that a block is made from and consists of. -/
abbrev Block := Vector UInt32 16

/-- One quarter round on four words of a block. -/
def quarterRound (b : Block) (i j k l : Fin 16) : Block :=
  let b := b.set i (b[i] + b[j])
  let b := b.set l (rotateLeft (b[l] ^^^ b[i]) 16)
  let b := b.set k (b[k] + b[l])
  let b := b.set j (rotateLeft (b[j] ^^^ b[k]) 12)
  let b := b.set i (b[i] + b[j])
  let b := b.set l (rotateLeft (b[l] ^^^ b[i]) 8)
  let b := b.set k (b[k] + b[l])
  b.set j (rotateLeft (b[j] ^^^ b[k]) 7)

/-- Two rounds: the four columns, then the four diagonals. -/
def doubleRound (b : Block) : Block :=
  let b := quarterRound b 0 4 8 12
  let b := quarterRound b 1 5 9 13
  let b := quarterRound b 2 6 10 14
  let b := quarterRound b 3 7 11 15
  let b := quarterRound b 0 5 10 15
  let b := quarterRound b 1 6 11 12
  let b := quarterRound b 2 7 8 13
  quarterRound b 3 4 9 14

/-- The words that a block is made from: four constants, the key, the block counter and no nonce. -/
def initialBlock (key : List UInt32) (counter : UInt64) : Block :=
  Vector.ofFn fun i =>
    match i.val with
    | 0  => 0x61707865
    | 1  => 0x3320646e
    | 2  => 0x79622d32
    | 3  => 0x6b206574
    | 12 => counter.toUInt32
    | 13 => (counter >>> 32).toUInt32
    | 14 => 0
    | 15 => 0
    | i  => key.getD (i - 4) 0

/-- The block of a key and a counter. -/
def block (key : List UInt32) (counter : UInt64) : Block :=
  let start := initialBlock key counter
  let mixed := (List.range 6).foldl (fun b _ => doubleRound b) start
  Vector.zipWith (· + ·) mixed start

end Keystream

/-! ### Stream -/

/-- A place in a stream of words: what is left of the current block, and the counter of the next. -/
structure Keystream where
  key : List UInt32
  counter : UInt64
  pending : List UInt32

namespace Keystream

/-- The stream of a seed, from its first word. -/
def ofSeed (seed : UInt64) : Keystream := ⟨keyOf seed, 0, []⟩

/-- The next word and the place after it. -/
def next (s : Keystream) : UInt32 × Keystream :=
  match s.pending with
  | word :: rest => (word, { s with pending := rest })
  | []           =>
    let b := block s.key s.counter
    (b[0], { s with counter := s.counter + 1, pending := b.toList.tail })

end Keystream

end ShardedIndex
