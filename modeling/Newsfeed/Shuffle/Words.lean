/-!
# Streams of random words

A source of 32-bit words, one after the other: either a list that is read round and round, or the
ChaCha stream cipher with twelve rounds, keyed by a seed.

* `Words.cyclic` : reads a list of words again and again.
* `ChaCha.block` : the sixteen words of one block.
* `ChaCha.ofSeed` : the stream of a 64-bit seed.
-/

namespace Newsfeed

/-- A source of words: the next word of a state, and the state after it. -/
abbrev WordSource (ρ : Type) := ρ → UInt32 × ρ

namespace Words

/-- A list of words and the words that are still to come before it starts again. -/
structure Cycle where
  all : List UInt32
  left : List UInt32
deriving DecidableEq, Repr

/-- The cycle at its beginning. -/
def Cycle.ofList (ws : List UInt32) : Cycle := ⟨ws, ws⟩

/-- Reads the words in order and starts again at the end; an empty list gives zeros. -/
def cyclic : WordSource Cycle := fun c =>
  match c.left with
  | w :: rest => (w, { c with left := rest })
  | [] =>
    match c.all with
    | w :: rest => (w, { c with left := rest })
    | [] => (0, c)

end Words

namespace ChaCha

/-- Rotation of a word to the left. -/
def rotateLeft (x n : UInt32) : UInt32 := (x <<< n) ||| (x >>> (32 - n))

/-- The sixteen words of the working state. -/
abbrev Block := Vector UInt32 16

/-- Mixes four words of the state. -/
def quarterRound (s : Block) (a b c d : Fin 16) : Block :=
  let s := s.set a (s[a] + s[b])
  let s := s.set d (rotateLeft (s[d] ^^^ s[a]) 16)
  let s := s.set c (s[c] + s[d])
  let s := s.set b (rotateLeft (s[b] ^^^ s[c]) 12)
  let s := s.set a (s[a] + s[b])
  let s := s.set d (rotateLeft (s[d] ^^^ s[a]) 8)
  let s := s.set c (s[c] + s[d])
  s.set b (rotateLeft (s[b] ^^^ s[c]) 7)

/-- One round down the columns and one along the diagonals. -/
def doubleRound (s : Block) : Block :=
  let s := quarterRound s 0 4 8 12
  let s := quarterRound s 1 5 9 13
  let s := quarterRound s 2 6 10 14
  let s := quarterRound s 3 7 11 15
  let s := quarterRound s 0 5 10 15
  let s := quarterRound s 1 6 11 12
  let s := quarterRound s 2 7 8 13
  quarterRound s 3 4 9 14

/-- Applies a function `n` times. -/
def iterate (f : Block → Block) : Nat → Block → Block
  | 0, s => s
  | n + 1, s => iterate f n (f s)

/-- A key of eight words. -/
abbrev Key := Vector UInt32 8

/-- The state that a block starts from: four constants, the key, a 64-bit block number and a stream
number of zero. -/
def start (key : Key) (counter : UInt64) : Block :=
  #v[0x61707865, 0x3320646e, 0x79622d32, 0x6b206574,
     key[0], key[1], key[2], key[3], key[4], key[5], key[6], key[7],
     counter.toUInt32, (counter >>> 32).toUInt32, 0, 0]

/-- The words of one block: twelve rounds over the start, added to the start. -/
def block (key : Key) (counter : UInt64) : List UInt32 :=
  let s := start key counter
  (Vector.zipWith (· + ·) s (iterate doubleRound 6 s)).toList

/-- A stream: its key, the number of the next block, and what is left of the present one. -/
structure Stream where
  key : Key
  counter : UInt64
  left : List UInt32
deriving DecidableEq, Repr

/-- The next word of a stream. -/
def next : WordSource Stream := fun s =>
  match s.left with
  | w :: rest => (w, { s with left := rest })
  | [] =>
    match block s.key s.counter with
    | w :: rest => (w, { s with counter := s.counter + 1, left := rest })
    | [] => (0, s)

/-- One step of the generator that spreads a seed over a key. -/
def seedStep (s : UInt64) : UInt64 := s * 6364136223846793005 + 11634580027462260723

/-- The word that a state of the seed generator gives. -/
def seedWord (s : UInt64) : UInt32 :=
  let x := (((s >>> 18) ^^^ s) >>> 27).toUInt32
  let r := (s >>> 59).toUInt32
  (x >>> r) ||| (x <<< ((32 - r) % 32))

/-- The key of a seed: the words of the eight states after it. -/
def seedKey (seed : UInt64) : Key :=
  let s1 := seedStep seed
  let s2 := seedStep s1
  let s3 := seedStep s2
  let s4 := seedStep s3
  let s5 := seedStep s4
  let s6 := seedStep s5
  let s7 := seedStep s6
  let s8 := seedStep s7
  #v[seedWord s1, seedWord s2, seedWord s3, seedWord s4,
     seedWord s5, seedWord s6, seedWord s7, seedWord s8]

/-- The stream of a seed, from its first block. -/
def ofSeed (seed : UInt64) : Stream := ⟨seedKey seed, 0, []⟩

end ChaCha

end Newsfeed
