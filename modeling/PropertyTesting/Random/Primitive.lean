import PropertyTesting.Decimal.Floating
import PropertyTesting.Random.Range

/-!
# Primitive samples

Random numbers, characters and texts. Whole numbers come in four ranges, floating values lie between
zero and one, and characters and texts are printable or the control character after them.
-/

namespace PropertyTesting.Random

/-- A range of whole numbers that includes its start and not its end. -/
structure IntegerRange where
  start : Int
  stop : Int
  deriving DecidableEq, Repr

/-- The greatest number of 32 bits with a sign. -/
def greatestInteger : Int := 2147483647

/-- The greatest number of 16 bits with a sign. -/
def greatestShort : Int := 32767

/-- Numbers around zero, half as far as 32 bits go. -/
def integerRange : IntegerRange :=
  ⟨-(greatestInteger / 2), greatestInteger - greatestInteger / 2⟩

/-- Numbers from zero as far as 32 bits go. -/
def posIntegerRange : IntegerRange := ⟨0, greatestInteger⟩

/-- Numbers around zero, half as far as 16 bits go. -/
def smallIntegerRange : IntegerRange :=
  ⟨-(greatestShort / 2), greatestShort - greatestShort / 2⟩

/-- Numbers from zero as far as 16 bits go. -/
def posSmallIntegerRange : IntegerRange := ⟨0, greatestShort⟩

/-- The code points of printable characters. -/
def printableRange : IntegerRange := ⟨32, 128⟩

/-- The bound of the lengths of collections and texts, unless another one is set. -/
def defaultMaxLength : Nat := 256

namespace Keystream

/-- Draws a whole number from a range. -/
def integer (range : IntegerRange) : Draw Keystream Int :=
  integerIn range.start range.stop

/-- Draws a printable character. -/
def character : Draw Keystream Char :=
  characterIn printableRange.start.toNat printableRange.stop.toNat

/-- Draws a floating value of 64 bits: 53 random bits after the point. -/
def double : Draw Keystream Decimal.Floating := fun s =>
  let (w, s) := s.doubleWord
  (Decimal.Width.double.round false (w.toNat / Nat.pow 2 11) (Nat.pow 2 53), s)

/-- Draws a floating value of 32 bits: 24 random bits after the point. -/
def single : Draw Keystream Decimal.Floating := fun s =>
  let (w, s) := s.word
  (Decimal.Width.single.round false (w.toNat / Nat.pow 2 8) (Nat.pow 2 24), s)

/-- Draws a text: its length, and then its characters. -/
def text : Draw Keystream String := fun s =>
  let (n, s) := Draw.length lengths defaultMaxLength s
  let (cs, s) := Draw.times character n s
  (String.ofList cs, s)

end Keystream

end PropertyTesting.Random
