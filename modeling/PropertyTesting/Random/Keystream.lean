/-!
# Key streams

A stream of 32-bit words that a seed determines: the blocks of the ChaCha function with twelve
rounds, whose counter numbers the blocks and whose key is spread from the seed by a congruential
generator.
-/

namespace PropertyTesting.Random

/-- The sixteen words of a block. -/
abbrev Block := Vector UInt32 16

/-- The eight words of a key. -/
abbrev Key := Vector UInt32 8

def rotateLeft (x amount : UInt32) : UInt32 :=
  (x <<< amount) ||| (x >>> (32 - amount))

def rotateRight (x amount : UInt32) : UInt32 :=
  (x >>> amount) ||| (x <<< (32 - amount))

/-- Adds the word at `b` to that at `a`, and mixes the sum into the word at `c` with a rotation. -/
def mix (a b c : Fin 16) (amount : UInt32) (s : Block) : Block :=
  let sum := s[a] + s[b]
  let s := s.set a sum
  s.set c (rotateLeft (s[c] ^^^ sum) amount)

/-- Mixes four words of a block. -/
def quarterRound (a b c d : Fin 16) (s : Block) : Block :=
  mix c d b 7 (mix a b d 8 (mix c d b 12 (mix a b d 16 s)))

/-- Mixes the columns and then the diagonals of a block. -/
def doubleRound (s : Block) : Block :=
  let s := quarterRound 0 4 8 12 s
  let s := quarterRound 1 5 9 13 s
  let s := quarterRound 2 6 10 14 s
  let s := quarterRound 3 7 11 15 s
  let s := quarterRound 0 5 10 15 s
  let s := quarterRound 1 6 11 12 s
  let s := quarterRound 2 7 8 13 s
  quarterRound 3 4 9 14 s

/-- The block before the rounds: constants, key, number of the block, zeros. -/
def initialBlock (key : Key) (number : UInt64) : Block :=
  #v[0x61707865, 0x3320646e, 0x79622d32, 0x6b206574,
    key[0], key[1], key[2], key[3], key[4], key[5], key[6], key[7],
    number.toUInt32, (number >>> 32).toUInt32, 0, 0]

/-- The block with a given number. -/
def block (key : Key) (number : UInt64) : Block :=
  let start := initialBlock key number
  let mixed := Nat.repeat doubleRound 6 start
  Vector.zipWith (· + ·) mixed start

/-- One step of the congruential generator: the state after it, and the word that it gives. -/
def spreadStep (state : UInt64) : UInt64 × UInt32 :=
  let state := state * 6364136223846793005 + 11634580027462260723
  let folded := (((state >>> 18) ^^^ state) >>> 27).toUInt32
  (state, rotateRight folded (state >>> 59).toUInt32)

/-- The states of the congruential generator after each of its first eight steps, with their
words. -/
def keyOfSeed (seed : UInt64) : Key :=
  let a := spreadStep seed
  let b := spreadStep a.1
  let c := spreadStep b.1
  let d := spreadStep c.1
  let e := spreadStep d.1
  let f := spreadStep e.1
  let g := spreadStep f.1
  let h := spreadStep g.1
  #v[a.2, b.2, c.2, d.2, e.2, f.2, g.2, h.2]

/-- A stream of words, part of which has been taken. -/
structure Keystream where
  key : Key
  /-- The number of the block that words are taken from. -/
  number : UInt64
  /-- The words of that block. -/
  current : Block
  /-- How many of them have been taken. -/
  taken : Nat
  deriving DecidableEq

namespace Keystream

/-- The stream of a seed, from its first word on. -/
def ofSeed (seed : UInt64) : Keystream :=
  let key := keyOfSeed seed
  ⟨key, 0, block key 0, 0⟩

/-- The next word. -/
def word (s : Keystream) : UInt32 × Keystream :=
  if h : s.taken < 16 then (s.current[s.taken], { s with taken := s.taken + 1 })
  else
    let number := s.number + 1
    let current := block s.key number
    (current[0], { s with number, current, taken := 1 })

/-- The next two words as one of twice the length, the lower half first. -/
def doubleWord (s : Keystream) : UInt64 × Keystream :=
  let (low, s) := s.word
  let (high, s) := s.word
  ((high.toUInt64 <<< 32) ||| low.toUInt64, s)

end Keystream

end PropertyTesting.Random
