/-!
# TOML texts

Texts in quotes. Texts in double quotes have escapes and texts in single quotes have none; either
may span lines between three quotes. Each reader takes the characters after the first quotes and
gives the text with the characters after the last ones. Fuel for one step per character is enough.
-/

namespace PropertyTesting.Toml

/-- Whether a character may stand for itself on a line. -/
def isLineChar (c : Char) : Bool :=
  c = '\t' || (0x20 ≤ c.toNat && c.toNat ≠ 0x7F)

/-- The single quote. -/
def singleQuote : Char := Char.ofNat 0x27

/-- Reads a number of exactly `count` hexadecimal digits after a number already read. -/
def hexNumber? : (count soFar : Nat) → List Char → Option (Nat × List Char)
  | 0, soFar, cs => some (soFar, cs)
  | _ + 1, _, [] => none
  | count + 1, soFar, c :: rest =>
    if c.isDigit then hexNumber? count (16 * soFar + (c.toNat - '0'.toNat)) rest
    else if 'a' ≤ c ∧ c ≤ 'f' then hexNumber? count (16 * soFar + (c.toNat - 'a'.toNat + 10)) rest
    else if 'A' ≤ c ∧ c ≤ 'F' then hexNumber? count (16 * soFar + (c.toNat - 'A'.toNat + 10)) rest
    else none

/-- Reads the character with a code point of `count` hexadecimal digits. -/
def codePoint? (count : Nat) (cs : List Char) : Option (Char × List Char) := do
  let (n, rest) ← hexNumber? count 0 cs
  if n < 0xD800 ∨ (0xE000 ≤ n ∧ n < 0x110000) then some (Char.ofNat n, rest) else none

/-- Reads what stands after the backslash of an escape. -/
def escape? : List Char → Option (Char × List Char)
  | [] => none
  | c :: rest =>
    if c = 'b' then some (Char.ofNat 0x08, rest)
    else if c = 't' then some ('\t', rest)
    else if c = 'n' then some ('\n', rest)
    else if c = 'f' then some (Char.ofNat 0x0C, rest)
    else if c = 'r' then some ('\r', rest)
    else if c = 'e' then some (Char.ofNat 0x1B, rest)
    else if c = '\"' then some ('\"', rest)
    else if c = '\\' then some ('\\', rest)
    else if c = 'x' then codePoint? 2 rest
    else if c = 'u' then codePoint? 4 rest
    else if c = 'U' then codePoint? 8 rest
    else none

/-- Reads a text on one line. `done` holds the characters already read, the latest first. -/
def lineText? (quote : Char) : Nat → List Char → List Char → Option (String × List Char)
  | 0, _, _ => none
  | _ + 1, _, [] => none
  | fuel + 1, done, c :: rest =>
    if c = quote then some (String.ofList done.reverse, rest)
    else if c = '\\' ∧ quote = '\"' then
      match escape? rest with
      | some (e, rest) => lineText? quote fuel (e :: done) rest
      | none => none
    else if isLineChar c then lineText? quote fuel (c :: done) rest
    else none

/-- Whether a character is a space or a tab. -/
def isBlankChar (c : Char) : Bool :=
  c = ' ' || c = '\t'

/-- The characters after a line end, if there is one. -/
def afterLineEnd? : List Char → Option (List Char)
  | '\n' :: rest => some rest
  | '\r' :: '\n' :: rest => some rest
  | _ => none

/-- Skips spaces, tabs and line ends. -/
def skipBlankLines : List Char → List Char
  | '\r' :: '\n' :: rest => skipBlankLines rest
  | c :: rest => if c = '\n' || isBlankChar c then skipBlankLines rest else c :: rest
  | [] => []

/-- Reads a text that may span lines. At its end up to two quotes may stand before the last
three. -/
def blockText? (quote : Char) : Nat → List Char → List Char → Option (String × List Char)
  | 0, _, _ => none
  | _ + 1, _, [] => none
  | fuel + 1, done, c :: rest =>
    if c = quote then
      let quotes := ((c :: rest).takeWhile (· = quote)).length
      if quotes < 3 then blockText? quote fuel (c :: done) rest
      else
        let kept := min (quotes - 3) 2
        some (String.ofList (List.replicate kept quote ++ done).reverse,
          (c :: rest).drop (kept + 3))
    else if c = '\\' ∧ quote = '\"' then
      match afterLineEnd? (rest.dropWhile isBlankChar) with
      | some rest => blockText? quote fuel done (skipBlankLines rest)
      | none =>
        match escape? rest with
        | some (e, rest) => blockText? quote fuel (e :: done) rest
        | none => none
    else if c = '\n' ∨ isLineChar c then blockText? quote fuel (c :: done) rest
    else if c = '\r' then
      match rest with
      | '\n' :: rest => blockText? quote fuel ('\n' :: '\r' :: done) rest
      | _ => none
    else none

/-- Reads a text from its first quote on; only a value may span lines. -/
def quoted? (fuel : Nat) (maySpanLines : Bool) (quote : Char) (cs : List Char) :
    Option (String × List Char) :=
  match cs with
  | a :: b :: c :: rest =>
    if maySpanLines && a = quote && b = quote && c = quote then
      blockText? quote fuel [] ((afterLineEnd? rest).getD rest)
    else lineText? quote fuel [] (b :: c :: rest)
  | _ :: rest => lineText? quote fuel [] rest
  | [] => none

end PropertyTesting.Toml
