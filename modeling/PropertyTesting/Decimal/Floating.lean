/-!
# Floating values

Binary floating values as exact numbers: a sign and a whole number of the least positive magnitude
of their width. Equality and order are those of the numbers, with NaN apart from everything and the
two zeros equal. A quotient is rounded to the nearest value, ties to the even significand.
-/

namespace PropertyTesting.Decimal

/-- A width of binary floating values. -/
structure Width where
  /-- The number of bits of a significand. -/
  precision : Nat
  /-- The least positive magnitude is two to the power of minus this many. -/
  fractionBits : Nat
  /-- Magnitudes are below two to this power, counted in least positive magnitudes. -/
  magnitudeBits : Nat

/-- Values of 64 bits. -/
def Width.double : Width := ⟨53, 1074, 2098⟩

/-- Values of 32 bits. -/
def Width.single : Width := ⟨24, 149, 277⟩

/-- A floating value of some width. -/
inductive Floating where
  /-- No number. -/
  | nan
  | infinite (negative : Bool)
  /-- As many least positive magnitudes as `units` says. -/
  | finite (negative : Bool) (units : Nat)
  deriving DecidableEq, Repr

namespace Floating

/-- Where an ordered value stands: below every finite one, at a number of units, or above. -/
def rank : Floating → Option (Int × Int)
  | nan => none
  | infinite true => some (-1, 0)
  | infinite false => some (1, 0)
  | finite negative units => some (0, if negative then -(units : Int) else units)

/-- Orders two values; none if one of them is no number. -/
def compare? (a b : Floating) : Option Ordering :=
  match a.rank, b.rank with
  | some (i, m), some (j, n) => some ((compare i j).then (compare m n))
  | _, _ => none

/-- Whether two values are equal as numbers. -/
def same (a b : Floating) : Bool :=
  a.compare? b == some .eq

end Floating

/-- The whole number nearest to `n / d`, the even one of two. -/
def nearestEven (n d : Nat) : Nat :=
  let whole := n / d
  let twice := 2 * (n % d)
  if twice < d ∨ (twice = d ∧ whole % 2 = 0) then whole else whole + 1

/-- The number nearest to `n / d` among those with `precision` significant bits. -/
def roundToPrecision (precision n d : Nat) : Nat :=
  let whole := n / d
  let bits := if whole = 0 then 0 else whole.log2 + 1
  -- Not `2 ^ _`, whose instance depends on how much of the library is imported.
  let grid := Nat.pow 2 (bits - precision)
  nearestEven n (d * grid) * grid

/-- The value of width `w` nearest to `n / d`. -/
def Width.round (w : Width) (negative : Bool) (n d : Nat) : Floating :=
  let units := roundToPrecision w.precision (n * Nat.pow 2 w.fractionBits) d
  if units < Nat.pow 2 w.magnitudeBits then .finite negative units else .infinite negative

/-- The value of width `w` nearest to `digits * 10 ^ exponent`. -/
def Width.ofScientific (w : Width) (negative : Bool) (digits : Nat) (exponent : Int) : Floating :=
  w.round negative (digits * Nat.pow 10 exponent.toNat) (Nat.pow 10 (-exponent).toNat)

end PropertyTesting.Decimal
