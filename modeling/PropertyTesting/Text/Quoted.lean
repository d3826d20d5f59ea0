import PropertyTesting.Text.Unprintable

/-!
# Quoted text

Texts and characters as they are shown in reports: between quotes, with the quote, the backslash and
the usual control characters written by a letter, and any other unprintable character by its code
point.
-/

namespace PropertyTesting.Text

/-- The single quote. -/
def apostrophe : Char := Char.ofNat 0x27

/-- The code point of a character in lower-case hexadecimal digits, in braces after a backslash and
`u`. -/
def codePointEscape (c : Char) : List Char :=
  ['\\', 'u', '\x7b'] ++ Nat.toDigits 16 c.toNat ++ ['\x7d']

/-- A character as it is written between two of the quotes `quote`. -/
def escapeChar (quote c : Char) : List Char :=
  if c = Char.ofNat 0 then ['\\', '0']
  else if c = '\t' then ['\\', 't']
  else if c = '\n' then ['\\', 'n']
  else if c = '\r' then ['\\', 'r']
  else if c = '\\' then ['\\', '\\']
  else if c = quote then ['\\', quote]
  else if isPrintable c then [c]
  else codePointEscape c

/-- A text in double quotes. -/
def quote (s : String) : String :=
  String.ofList (['\"'] ++ s.toList.flatMap (escapeChar '\"') ++ ['\"'])

/-- A character in single quotes. -/
def quoteChar (c : Char) : String :=
  String.ofList ([apostrophe] ++ escapeChar apostrophe c ++ [apostrophe])

end PropertyTesting.Text
