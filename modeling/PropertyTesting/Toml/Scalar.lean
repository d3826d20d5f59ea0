import PropertyTesting.Toml.Basic

/-!
# TOML scalars

Values that are written without quotes or brackets: whole numbers in four bases, floating numbers,
truth values, and dates and times.

What begins like a whole number is taken for one if its underscores stand where they may, and only
then it is seen whether its digits spell one. So `0x` and `1_0z` are values too, which spell no
number.
-/

namespace PropertyTesting.Toml

/-! ## Digits -/

/-- The value of a digit of some base up to sixteen. -/
def digitValue? (c : Char) : Option Nat :=
  if c.isDigit then some (c.toNat - '0'.toNat)
  else if 'a' ≤ c ∧ c ≤ 'f' then some (c.toNat - 'a'.toNat + 10)
  else if 'A' ≤ c ∧ c ≤ 'F' then some (c.toNat - 'A'.toNat + 10)
  else none

/-- Whether a character is a digit of a base. -/
def isDigitOf (base : Nat) (c : Char) : Bool :=
  match digitValue? c with
  | some d => d < base
  | none => false

/-- The number that digits of a base spell. -/
def spelled (base : Nat) (digits : List Char) : Nat :=
  digits.foldl (fun n c => base * n + (digitValue? c).getD 0) 0

/-- Whether each underscore stands between two digits of a base. `isAfterDigit` says whether a digit
stands before the characters. -/
def areGrouped (base : Nat) : (isAfterDigit : Bool) → List Char → Bool
  | _, [] => true
  | isAfterDigit, c :: rest =>
    if c = '_' then isAfterDigit && rest.head?.any (isDigitOf base) && areGrouped base false rest
    else areGrouped base (isDigitOf base c) rest

/-- The characters without a sign before them. -/
def magnitude : List Char → List Char
  | '-' :: rest | '+' :: rest => rest
  | cs => cs

/-! ## Whole numbers -/

/-- The whole number that digits in groups spell in a base, if they do. -/
def wholeNumber (base : Nat) (negative : Bool) (cs : List Char) : Toml :=
  let digits := cs.filter (· ≠ '_')
  if !digits.isEmpty && digits.all (isDigitOf base) then
    let n : Int := spelled base digits
    integer (if negative then -n else n)
  else misspelt (String.ofList cs)

/-- Reads the digits of a whole number in a base, which may be missing. -/
def basedNumber? (base : Nat) (cs : List Char) : Option Toml :=
  if cs.all (fun c => isDigitOf base c || c = '_') && areGrouped base false cs then
    some (wholeNumber base false cs)
  else none

/-- Reads a whole number in base ten. It has no zero before it; its groups may hold the digits of
any base, and its last one may end in anything. -/
def decimalNumber? (cs : List Char) : Option Toml :=
  let digits := magnitude cs
  if digits.isEmpty || (digits.head? = some '0' && digits.length ≠ 1) then none
  else if areGrouped 16 false cs then some (wholeNumber 10 (cs.head? = some '-') digits)
  else none

/-! ## Floating numbers -/

/-- The characters after digits in groups, of which there must be one. A zero may stand before
others only if `zeroMayLead` says so. -/
def afterDigits? (zeroMayLead : Bool) (cs : List Char) : Option (List Char) :=
  let isDigitOrLine := fun c : Char => c.isDigit || c = '_'
  let count := (cs.takeWhile isDigitOrLine).countP Char.isDigit
  if count = 0 || (!zeroMayLead && 1 < count && cs.head? = some '0') then none
  else some (cs.dropWhile isDigitOrLine)

/-- The characters after the point and what follows it, if there is a point. -/
def afterFraction? : List Char → Option (List Char)
  | '.' :: rest => afterDigits? true rest
  | cs => some cs

/-- The characters after an exponent, if there is one. -/
def afterExponent? : List Char → Option (List Char)
  | 'e' :: rest | 'E' :: rest => afterDigits? true (magnitude rest)
  | cs => some cs

/-- Whether characters spell a number with a point or an exponent. -/
def isFloat (cs : List Char) : Bool :=
  ((afterDigits? false (magnitude cs)).bind afterFraction?).bind afterExponent? = some []
    && areGrouped 10 false cs

/-! ## Dates and times -/

/-- Reads a number of exactly `count` digits. -/
def fixedDigits? (count : Nat) (cs : List Char) : Option (Nat × List Char) :=
  let digits := cs.take count
  if digits.length = count && digits.all Char.isDigit then
    some (spelled 10 digits, cs.drop count)
  else none

/-- The number of days of a month. -/
def daysInMonth (year month : Nat) : Nat :=
  if month = 2 then
    if year % 4 = 0 ∧ (year % 100 ≠ 0 ∨ year % 400 = 0) then 29 else 28
  else if month = 4 ∨ month = 6 ∨ month = 9 ∨ month = 11 then 30
  else 31

/-- The characters after a date. -/
def afterDate? (cs : List Char) : Option (List Char) := do
  let (year, rest) ← fixedDigits? 4 cs
  match rest with
  | '-' :: rest => do
    let (month, rest) ← fixedDigits? 2 rest
    match rest with
    | '-' :: rest => do
      let (day, rest) ← fixedDigits? 2 rest
      if 1 ≤ month ∧ month ≤ 12 ∧ 1 ≤ day ∧ day ≤ daysInMonth year month then some rest else none
    | _ => none
  | _ => none

/-- The characters after hours and minutes. -/
def afterMinutes? (cs : List Char) : Option (List Char) := do
  let (hour, rest) ← fixedDigits? 2 cs
  match rest with
  | ':' :: rest => do
    let (minute, rest) ← fixedDigits? 2 rest
    if hour ≤ 23 ∧ minute ≤ 59 then some rest else none
  | _ => none

/-- The characters after a time, which may lack the seconds and the part after their point. -/
def afterTime? (cs : List Char) : Option (List Char) := do
  let rest ← afterMinutes? cs
  match rest with
  | ':' :: rest => do
    let (second, rest) ← fixedDigits? 2 rest
    if 60 < second then none
    else
      match rest with
      | '.' :: rest =>
        if (rest.takeWhile Char.isDigit).isEmpty then none else some (rest.dropWhile Char.isDigit)
      | _ => some rest
  | _ => some rest

/-- Whether characters spell the distance to the universal time, or nothing. -/
def isOffset (cs : List Char) : Bool :=
  match cs with
  | [] => true
  | ['Z'] | ['z'] => true
  | '+' :: rest | '-' :: rest => afterMinutes? rest = some []
  | _ => false

/-- Whether characters spell a date, a time, or both. -/
def isDateTime (cs : List Char) : Bool :=
  match afterDate? cs with
  | some [] => true
  | some (mark :: rest) =>
    (mark = 'T' || mark = 't' || mark = ' ') &&
      match afterTime? rest with
      | some offset => isOffset offset
      | none => false
  | none => afterTime? cs = some []

/-- Reads a number, a date or a time in base ten. What follows the first digits tells them apart. -/
def decimalScalar? (cs : List Char) : Option Toml :=
  let rest := (magnitude cs).dropWhile Char.isDigit
  let isMark := fun c : Char => c = '.' || c = 'e' || c = 'E'
  match rest with
  | [] => decimalNumber? cs
  | c :: _ =>
    if c = '-' ∨ c = ':' then
      if isDateTime cs then some (dateTime (String.ofList cs)) else none
    else if rest.contains ' ' then none
    else if rest.any isMark then if isFloat cs then some (float (String.ofList cs)) else none
    else if c = '_' then decimalNumber? cs
    else none

/-- Reads a scalar. -/
def scalar? (cs : List Char) : Option Toml :=
  if cs = ['t', 'r', 'u', 'e'] then some (boolean true)
  else if cs = ['f', 'a', 'l', 's', 'e'] then some (boolean false)
  else if magnitude cs = ['i', 'n', 'f'] ∨ magnitude cs = ['n', 'a', 'n'] then
    some (float (String.ofList cs))
  else
    match cs with
    | '0' :: 'x' :: digits => basedNumber? 16 digits
    | '0' :: 'o' :: digits => basedNumber? 8 digits
    | '0' :: 'b' :: digits => basedNumber? 2 digits
    | _ => decimalScalar? cs

end PropertyTesting.Toml
