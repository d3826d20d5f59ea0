import PropertyTesting.Decimal.Shortest

/-!
# Written floating values

The text of a floating value and the values of texts. A value is written with its shortest digits,
positionally with at least one digit after the point when its first digit stands between the fourth
place after the point and the sixteenth before it, and otherwise with an exponent.
-/

namespace PropertyTesting.Decimal

/-- The digits of a number. -/
def digitsOf (n : Nat) : List Char :=
  Nat.toDigits 10 n

/-- Digits with the point after the first `places` of them; zeros fill up the missing places. -/
def positional (digits : List Char) (places : Int) : List Char :=
  if places ≤ 0 then ['0', '.'] ++ List.replicate (-places).toNat '0' ++ digits
  else if digits.length ≤ places.toNat then
    digits ++ List.replicate (places.toNat - digits.length) '0' ++ ['.', '0']
  else digits.take places.toNat ++ ['.'] ++ digits.drop places.toNat

/-- Digits with the point after the first of them and the exponent of that digit. -/
def scientific (digits : List Char) (exponent : Int) : List Char :=
  digits.take 1 ++ (if digits.length ≤ 1 then [] else '.' :: digits.drop 1)
    ++ ['e'] ++ (toString exponent).toList

/-- The text of a positive decimal. -/
def Numeral.chars (x : Numeral) : List Char :=
  let digits := digitsOf x.digits
  let exponent := x.exponent + digits.length - 1
  if -4 ≤ exponent ∧ exponent < 16 then positional digits (exponent + 1)
  else scientific digits exponent

/-- The text of a value of width `w`. -/
def Width.write (w : Width) : Floating → String
  | .nan => "NaN"
  | .infinite negative => if negative then "-inf" else "inf"
  | .finite negative units =>
    let magnitude := if units = 0 then ['0', '.', '0'] else (w.shortest units).chars
    String.ofList (if negative then '-' :: magnitude else magnitude)

/-! ## Reading -/

/-- The number that digits spell after a number already read. -/
def spelled (digits : List Char) : Nat :=
  digits.foldl (fun n c => 10 * n + (c.toNat - '0'.toNat)) 0

/-- Reads the exponent after its mark: an optional sign and at least one digit, up to the end. -/
def exponentOf? (cs : List Char) : Option Int :=
  let (negative, digits) : Bool × List Char :=
    match cs with
    | '-' :: rest => (true, rest)
    | '+' :: rest => (false, rest)
    | _ => (false, cs)
  if digits.isEmpty || !digits.all Char.isDigit then none
  else some (if negative then -(spelled digits : Int) else spelled digits)

/-- The value of a number of digits, written `digits * 10 ^ exponent`. A number with too many places
before the point for the width is infinite and one with too many after it is zero, whatever its
digits. -/
def Width.ofDigits (w : Width) (negative : Bool) (digits : Nat) (exponent : Int) : Floating :=
  let places := exponent + digitCount digits
  if digits = 0 then .finite negative 0
  else if (w.magnitudeBits : Int) < places then .infinite negative
  else if places < -(w.fractionBits : Int) then .finite negative 0
  else w.ofScientific negative digits exponent

/-- Reads an unsigned number: digits with at most one point among them, and an optional exponent. -/
def Width.readMagnitude? (w : Width) (negative : Bool) (cs : List Char) : Option Floating :=
  let whole := cs.takeWhile Char.isDigit
  let afterWhole := cs.dropWhile Char.isDigit
  let (fraction, rest) : List Char × List Char :=
    match afterWhole with
    | '.' :: tail => (tail.takeWhile Char.isDigit, tail.dropWhile Char.isDigit)
    | _ => ([], afterWhole)
  if whole.isEmpty && fraction.isEmpty then none
  else
    let value (exponent : Int) : Floating :=
      w.ofDigits negative (spelled (whole ++ fraction)) (exponent - fraction.length)
    match rest with
    | [] => some (value 0)
    | mark :: tail => if mark = 'e' ∨ mark = 'E' then (exponentOf? tail).map value else none

/-- Reads a decimal text: an optional sign, and a number or one of the names of what is no finite
number, in letters of either case. -/
def Width.read? (w : Width) (s : String) : Option Floating :=
  let (negative, cs) : Bool × List Char :=
    match s.toList with
    | '-' :: rest => (true, rest)
    | '+' :: rest => (false, rest)
    | cs => (false, cs)
  match String.ofList (cs.map Char.toLower) with
  | "nan" => some .nan
  | "inf" | "infinity" => some (.infinite negative)
  | _ => w.readMagnitude? negative cs

end PropertyTesting.Decimal
