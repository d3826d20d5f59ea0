import PropertyTesting.Json.Basic

/-!
# Written JSON

The compact text of a JSON value: no space between its parts, and control characters in texts
escaped, so that the text stays on one line.
-/

namespace PropertyTesting.Json

/-- Two lower-case hexadecimal digits. -/
def twoHexDigits (n : Nat) : List Char :=
  [Nat.digitChar (n / 16 % 16), Nat.digitChar (n % 16)]

/-- A character inside the quotes of a text. -/
def escapeChar (c : Char) : List Char :=
  if c = '\"' then ['\\', '\"']
  else if c = '\\' then ['\\', '\\']
  else if c = '\n' then ['\\', 'n']
  else if c = '\r' then ['\\', 'r']
  else if c = '\t' then ['\\', 't']
  else if c.toNat = 0x08 then ['\\', 'b']
  else if c.toNat = 0x0C then ['\\', 'f']
  else if c.toNat < 0x20 then ['\\', 'u', '0', '0'] ++ twoHexDigits c.toNat
  else [c]

/-- A text in quotes. -/
def quotedChars (s : String) : List Char :=
  ['\"'] ++ s.toList.flatMap escapeChar ++ ['\"']

/-- The digits of a whole number, after a minus sign if it is negative. -/
def integerChars : Int → List Char
  | .ofNat n => Nat.toDigits 10 n
  | .negSucc n => '-' :: Nat.toDigits 10 (n + 1)

mutual

/-- The compact text of a value. -/
def chars : Json → List Char
  | null => ['n', 'u', 'l', 'l']
  | boolean true => ['t', 'r', 'u', 'e']
  | boolean false => ['f', 'a', 'l', 's', 'e']
  | integer n => integerChars n
  | decimal literal => literal.toList
  | string s => quotedChars s
  | array [] => ['[', ']']
  | array (item :: rest) => '[' :: (chars item ++ itemChars rest)
  | object [] => ['\x7b', '\x7d']
  | object ((name, value) :: rest) =>
    '\x7b' :: (quotedChars name ++ ':' :: (chars value ++ fieldChars rest))

/-- The items of an array after its first, and the bracket that closes it. -/
def itemChars : List Json → List Char
  | [] => [']']
  | item :: rest => ',' :: (chars item ++ itemChars rest)

/-- The fields of an object after its first, and the brace that closes it. -/
def fieldChars : List (String × Json) → List Char
  | [] => ['\x7d']
  | (name, value) :: rest => ',' :: (quotedChars name ++ ':' :: (chars value ++ fieldChars rest))

end

/-- The compact text of a value. -/
def compact (value : Json) : String :=
  String.ofList value.chars

end PropertyTesting.Json
