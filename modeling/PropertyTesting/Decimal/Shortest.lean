import PropertyTesting.Decimal.Floating

/-!
# Shortest digits

The fewest decimal digits that read back to a floating value, and of those the nearest to it. On the
grid of decimals with `n` digits only the two neighbours of the value can be the nearest, so each
grid is tested at these two, from one digit upwards.
-/

namespace PropertyTesting.Decimal

/-- The number `digits * 10 ^ exponent`. -/
structure Numeral where
  digits : Nat
  exponent : Int
  deriving DecidableEq, Repr

/-- The number of decimal digits of a number. -/
def digitCount (n : Nat) : Nat :=
  (Nat.toDigits 10 n).length

/-- The least power of ten above the positive number `n / d`. -/
def powerAbove (n d : Nat) : Int :=
  if d ≤ n then digitCount (n / d) else 1 - (digitCount ((d - 1) / n) : Int)

/-- Drops the zeros at the end of the digits, at most `fuel` of them. -/
def Numeral.stripped : Nat → Numeral → Numeral
  | 0, x => x
  | fuel + 1, x =>
    if x.digits % 10 = 0 then Numeral.stripped fuel ⟨x.digits / 10, x.exponent + 1⟩ else x

namespace Width

/-- Whether a decimal is read as the value of `units` least positive magnitudes. -/
def readsBack (w : Width) (units : Nat) (x : Numeral) : Bool :=
  w.ofScientific false x.digits x.exponent == .finite false units

/-- The decimal with `count` digits that is nearest to the value, if one reads back. Of two equally
near ones the greater is taken. -/
def withDigits? (w : Width) (units count : Nat) : Option Numeral :=
  let grid := powerAbove units (Nat.pow 2 w.fractionBits) - count
  let n := units * Nat.pow 10 (-grid).toNat
  let d := Nat.pow 2 w.fractionBits * Nat.pow 10 grid.toNat
  let below : Numeral := ⟨n / d, grid⟩
  let above : Numeral := ⟨n / d + 1, grid⟩
  match w.readsBack units below, w.readsBack units above with
  | true, true => some (if 2 * (n % d) < d then below else above)
  | true, false => some below
  | false, true => some above
  | false, false => none

/-- All digits of the value. -/
def exactDecimal (w : Width) (units : Nat) : Numeral :=
  ⟨units * Nat.pow 5 w.fractionBits, -(w.fractionBits : Int)⟩

/-- The shortest decimal that reads back to the value of `units` least positive magnitudes; it ends
in no zero. -/
def shortest (w : Width) (units : Nat) : Numeral :=
  let found := ((List.range 17).findSome? fun i => w.withDigits? units (i + 1)).getD
    (w.exactDecimal units)
  found.stripped (digitCount found.digits)

end Width

end PropertyTesting.Decimal
