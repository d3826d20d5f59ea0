import PropertyTesting.Json.Basic

/-!
# Reading JSON

Reads a text that holds one JSON value. Each reader takes the characters before it and gives what it
read with the characters after it. The readers of nested values and of texts have fuel for two steps
per character of the whole text, which no value uses up.
-/

namespace PropertyTesting.Json

/-- Whether a character may stand between the parts of a value. -/
def isGap (c : Char) : Bool :=
  c = ' ' || c = '\n' || c = '\t' || c = '\r'

/-- The characters after a gap. -/
def skipGap (cs : List Char) : List Char :=
  cs.dropWhile isGap

/-- The value of a hexadecimal digit. -/
def hexDigit? (c : Char) : Option Nat :=
  if '0' ≤ c ∧ c ≤ '9' then some (c.toNat - '0'.toNat)
  else if 'a' ≤ c ∧ c ≤ 'f' then some (c.toNat - 'a'.toNat + 10)
  else if 'A' ≤ c ∧ c ≤ 'F' then some (c.toNat - 'A'.toNat + 10)
  else none

/-- Reads four hexadecimal digits. -/
def fourHexDigits? : List Char → Option (Nat × List Char)
  | a :: b :: c :: d :: rest => do
    let a ← hexDigit? a
    let b ← hexDigit? b
    let c ← hexDigit? c
    let d ← hexDigit? d
    pure (((a * 16 + b) * 16 + c) * 16 + d, rest)
  | _ => none

/-- Reads the code point after a backslash and `u`. A code point beyond the first plane is written
as two halves, and no half stands alone. -/
def codePoint? (cs : List Char) : Option (Char × List Char) := do
  let (high, rest) ← fourHexDigits? cs
  if 0xD800 ≤ high ∧ high < 0xDC00 then
    match rest with
    | '\\' :: 'u' :: rest => do
      let (low, rest) ← fourHexDigits? rest
      if 0xDC00 ≤ low ∧ low < 0xE000 then
        pure (Char.ofNat (0x10000 + (high - 0xD800) * 0x400 + (low - 0xDC00)), rest)
      else none
    | _ => none
  else if 0xDC00 ≤ high ∧ high < 0xE000 then none
  else pure (Char.ofNat high, rest)

/-- The character that a letter after a backslash stands for. -/
def letterEscape? (c : Char) : Option Char :=
  if c = '\"' then some '\"'
  else if c = '\\' then some '\\'
  else if c = '/' then some '/'
  else if c = 'b' then some (Char.ofNat 0x08)
  else if c = 'f' then some (Char.ofNat 0x0C)
  else if c = 'n' then some '\n'
  else if c = 'r' then some '\r'
  else if c = 't' then some '\t'
  else none

/-- Reads a text after its first quote, up to its last; `done` holds the characters already read,
the latest first. -/
def textAfterQuote? : Nat → List Char → List Char → Option (String × List Char)
  | 0, _, _ => none
  | fuel + 1, done, cs =>
    match cs with
    | [] => none
    | '\"' :: rest => some (String.ofList done.reverse, rest)
    | '\\' :: 'u' :: rest =>
      match codePoint? rest with
      | some (c, rest) => textAfterQuote? fuel (c :: done) rest
      | none => none
    | '\\' :: letter :: rest =>
      match letterEscape? letter with
      | some c => textAfterQuote? fuel (c :: done) rest
      | none => none
    | c :: rest => if c.toNat < 0x20 then none else textAfterQuote? fuel (c :: done) rest

/-- The number that digits spell. -/
def spelled (digits : List Char) : Nat :=
  digits.foldl (fun n c => 10 * n + (c.toNat - '0'.toNat)) 0

/-- The digits at the start of a text, if there are any. -/
def digits? (cs : List Char) : Option (List Char × List Char) :=
  let digits := cs.takeWhile Char.isDigit
  if digits.isEmpty then none else some (digits, cs.dropWhile Char.isDigit)

/-- Reads the part of a number after its whole digits that begins with a point, if there is one. -/
def fraction? : List Char → Option (List Char × List Char)
  | '.' :: rest => (digits? rest).map fun (digits, rest) => ('.' :: digits, rest)
  | cs => some ([], cs)

/-- Reads the exponent of a number, if there is one. -/
def exponent? (cs : List Char) : Option (List Char × List Char) :=
  match cs with
  | [] => some ([], [])
  | mark :: rest =>
    if mark = 'e' ∨ mark = 'E' then
      match rest with
      | sign :: tail =>
        if sign = '+' ∨ sign = '-' then
          (digits? tail).map fun (digits, rest) => (mark :: sign :: digits, rest)
        else (digits? rest).map fun (digits, rest) => (mark :: digits, rest)
      | [] => none
    else some ([], cs)

/-- Reads a number after its sign. The digits before the point have no leading zero. -/
def magnitude? (negative : Bool) (cs : List Char) : Option (Json × List Char) := do
  let (whole, rest) ← digits? cs
  if whole.length > 1 ∧ whole.head? = some '0' then none
  else
    let (fraction, rest) ← fraction? rest
    let (exponent, rest) ← exponent? rest
    let isWhole := fraction.isEmpty && exponent.isEmpty && !(negative && spelled whole = 0)
    if isWhole then
      pure (integer (if negative then -(spelled whole : Int) else spelled whole), rest)
    else
      let sign := if negative then ['-'] else []
      pure (decimal (String.ofList (sign ++ whole ++ fraction ++ exponent)), rest)

/-- Reads a number. -/
def number? : List Char → Option (Json × List Char)
  | '-' :: rest => magnitude? true rest
  | cs => magnitude? false cs

mutual

/-- Reads a value. -/
def value? : Nat → List Char → Option (Json × List Char)
  | 0, _ => none
  | fuel + 1, cs =>
    match cs with
    | 'n' :: 'u' :: 'l' :: 'l' :: rest => some (null, rest)
    | 't' :: 'r' :: 'u' :: 'e' :: rest => some (boolean true, rest)
    | 'f' :: 'a' :: 'l' :: 's' :: 'e' :: rest => some (boolean false, rest)
    | '\"' :: rest => (textAfterQuote? fuel [] rest).map fun (s, rest) => (string s, rest)
    | '[' :: rest =>
      match skipGap rest with
      | ']' :: rest => some (array [], rest)
      | rest => items? fuel [] rest
    | '\x7b' :: rest =>
      match skipGap rest with
      | '\x7d' :: rest => some (object [], rest)
      | rest => fields? fuel [] rest
    | cs => number? cs

/-- Reads the items of an array from one of them on; `done` holds the earlier ones, the latest
first. -/
def items? : Nat → List Json → List Char → Option (Json × List Char)
  | 0, _, _ => none
  | fuel + 1, done, cs => do
    let (item, rest) ← value? fuel cs
    match skipGap rest with
    | ',' :: rest => items? fuel (item :: done) (skipGap rest)
    | ']' :: rest => some (array (item :: done).reverse, rest)
    | _ => none

/-- Reads the fields of an object from one of them on; `done` holds the earlier ones in their order.
A later field takes the place of an earlier one of its name. -/
def fields? : Nat → List (String × Json) → List Char → Option (Json × List Char)
  | 0, _, _ => none
  | fuel + 1, done, cs =>
    match cs with
    | '\"' :: rest => do
      let (name, rest) ← textAfterQuote? fuel [] rest
      match skipGap rest with
      | ':' :: rest => do
        let (value, rest) ← value? fuel (skipGap rest)
        let done := putField name value done
        match skipGap rest with
        | ',' :: rest => fields? fuel done (skipGap rest)
        | '\x7d' :: rest => some (object done, rest)
        | _ => none
      | _ => none
    | _ => none

end

/-- The value that a text holds. -/
def read? (s : String) : Option Json :=
  let cs := s.toList
  match value? (2 * cs.length + 2) (skipGap cs) with
  | some (value, rest) => if (skipGap rest).isEmpty then some value else none
  | none => none

end PropertyTesting.Json
