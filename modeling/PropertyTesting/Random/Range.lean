import PropertyTesting.Generator
import PropertyTesting.Random.Keystream

/-!
# Numbers in a range

Choosing a number below a bound from random words. A word is multiplied by the bound; the upper half
of the product is the number, unless the lower half lies beyond a zone that makes all numbers
equally likely, in which case the next word is tried.

More than half of all words are accepted, so a run of `maxAttempts` refused words does not occur in
practice; after it the last word is accepted as it is, and `below_lt` holds there too.
-/

namespace PropertyTesting.Random

/-- The number of words that are tried. -/
def maxAttempts : Nat := 1000

/-- Draws a number below `bound` from words of `bits` bits, whose product with the bound is accepted
if its lower half is at most `zone`. -/
def chooseBelow {σ : Type} (bits : Nat) (word : Draw σ Nat) (bound zone : Nat) :
    (attempts : Nat) → Draw σ Nat
  | 0, state =>
    let (w, state) := word state
    (w * bound / Nat.pow 2 bits, state)
  | attempts + 1, state =>
    let (w, state) := word state
    let product := w * bound
    if product % Nat.pow 2 bits ≤ zone then (product / Nat.pow 2 bits, state)
    else chooseBelow bits word bound zone attempts state

theorem chooseBelow_lt {σ : Type} {bits : Nat} {word : Draw σ Nat} {bound zone : Nat}
    (hword : ∀ state, (word state).1 < Nat.pow 2 bits) (hbound : 0 < bound) (attempts : Nat)
    (state : σ) :
    (chooseBelow bits word bound zone attempts state).1 < bound := by
  have high (s : σ) : (word s).1 * bound / Nat.pow 2 bits < bound := by
    apply Nat.div_lt_of_lt_mul
    exact Nat.mul_lt_mul_of_pos_right (hword s) hbound
  induction attempts generalizing state with
  | zero => exact high state
  | succ attempts ih =>
    unfold chooseBelow
    dsimp only
    split
    · exact high state
    · exact ih _

/-- The number of bits of a number. -/
def bitLength (n : Nat) : Nat :=
  if n = 0 then 0 else n.log2 + 1

/-- The zone for a bound: the bound itself with zeros behind it up to the length of a word. -/
def shiftedZone (bits bound : Nat) : Nat :=
  bound * Nat.pow 2 (bits - bitLength bound) - 1

/-- The zone for a bound: as much as whole multiples of the bound fill of a word. -/
def filledZone (bits bound : Nat) : Nat :=
  Nat.pow 2 bits - 1 - (Nat.pow 2 bits - bound) % bound

namespace Keystream

/-- The next word as a number. -/
def wordNat : Draw Keystream Nat := fun s =>
  let (w, s) := s.word
  (w.toNat, s)

/-- The next double word as a number. -/
def doubleWordNat : Draw Keystream Nat := fun s =>
  let (w, s) := s.doubleWord
  (w.toNat, s)

/-- Draws a number below a bound from double words. -/
def lengthBelow (bound : Nat) : Draw Keystream Nat :=
  chooseBelow 64 doubleWordNat bound (shiftedZone 64 bound) maxAttempts

/-- The source of the lengths of collections. -/
def lengths : LengthSource Keystream where
  below := lengthBelow
  below_lt state hbound := chooseBelow_lt (fun _ => UInt64.toNat_lt _) hbound maxAttempts state

/-- Draws a whole number from `low` up to `high`, which it does not reach. -/
def integerIn (low high : Int) : Draw Keystream Int := fun s =>
  let bound := (high - low).toNat
  let (n, s) := chooseBelow 32 wordNat bound (shiftedZone 32 bound) maxAttempts s
  (low + n, s)

/-- Draws a character with a code point from `low` up to `high`, which it does not reach. -/
def characterIn (low high : Nat) : Draw Keystream Char := fun s =>
  let bound := high - low
  let (n, s) := chooseBelow 32 wordNat bound (filledZone 32 bound) maxAttempts s
  (Char.ofNat (low + n), s)

end Keystream

end PropertyTesting.Random
