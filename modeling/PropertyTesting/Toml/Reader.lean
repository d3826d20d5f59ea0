import PropertyTesting.Toml.Quoted
import PropertyTesting.Toml.Scalar

/-!
# Reading TOML

Reads a TOML document line by line into one table. Each reader takes the characters before it and
gives what it read with the characters after it; fuel for two steps per character of the document is
enough.
-/

namespace PropertyTesting.Toml

/-- The greatest depth of arrays and tables inside one another, and the greatest number of parts of
a key. -/
def maxNesting : Nat := 80

/-- Skips spaces and tabs. -/
def skipBlanks (cs : List Char) : List Char :=
  cs.dropWhile isBlankChar

/-- Skips spaces, tabs, line ends and comments. -/
def skipFiller? : (inComment : Bool) → List Char → Option (List Char)
  | _, [] => some []
  | _, '\n' :: rest => skipFiller? false rest
  | _, '\r' :: '\n' :: rest => skipFiller? false rest
  | true, c :: rest => if isLineChar c then skipFiller? true rest else none
  | false, c :: rest =>
    if isBlankChar c then skipFiller? false rest
    else if c = '#' then skipFiller? true rest
    else some (c :: rest)

/-- The characters after the line, on which nothing but a comment may be left. -/
def afterLine? (cs : List Char) : Option (List Char) :=
  let cs := skipBlanks cs
  let cs := match cs with
    | '#' :: comment => comment.dropWhile isLineChar
    | _ => cs
  if cs.isEmpty then some [] else afterLineEnd? cs

/-! ## Keys -/

/-- Whether a character may stand in a key without quotes. -/
def isBareKeyChar (c : Char) : Bool :=
  c.isAlphanum || c = '_' || c = '-'

/-- Reads one part of a key. -/
def keyPart? (fuel : Nat) (cs : List Char) : Option (String × List Char) :=
  match cs with
  | [] => none
  | c :: _ =>
    if c = '\"' ∨ c = singleQuote then quoted? fuel false c cs
    else
      let name := cs.takeWhile isBareKeyChar
      if name.isEmpty then none else some (String.ofList name, cs.dropWhile isBareKeyChar)

/-- Reads a key of at most `room` parts, which dots part, and the blanks after it. -/
def keyParts? (fuel : Nat) : (room : Nat) → List Char → Option (List String × List Char)
  | 0, _ => none
  | room + 1, cs => do
    let (part, rest) ← keyPart? fuel (skipBlanks cs)
    match skipBlanks rest with
    | '.' :: rest => do
      let (parts, rest) ← keyParts? fuel room rest
      some (part :: parts, rest)
    | rest => some ([part], rest)

/-- Reads a key and the blanks after it. -/
def key? (fuel : Nat) (cs : List Char) : Option (List String × List Char) :=
  keyParts? fuel maxNesting cs

/-! ## Values -/

/-- Whether a character may stand in a word. -/
def isWordChar (c : Char) : Bool :=
  !(isBlankChar c || c = '\n' || c = '\r' || c = '=' || c = ',' || c = '#' || c = '[' || c = ']'
    || c = '\x7b' || c = '\x7d')

/-- Whether a word may begin with a character. -/
def isWordStart (c : Char) : Bool :=
  isWordChar c && c ≠ '.' && c ≠ '\"' && c ≠ singleQuote

/-- Takes words and the blanks between them. `done` holds the characters already taken and `blanks`
those that are taken if a word follows them, both the latest first. -/
def words : (done blanks : List Char) → List Char → List Char × List Char
  | done, blanks, [] => (done.reverse, blanks.reverse)
  | done, blanks, c :: rest =>
    if isBlankChar c then words done (c :: blanks) rest
    else if isWordStart c || (blanks.isEmpty && isWordChar c) then
      words (c :: (blanks ++ done)) [] rest
    else (done.reverse, blanks.reverse ++ c :: rest)

/-- Reads a scalar, which is all the words up to what ends a value. -/
def scalarValue? (cs : List Char) : Option (Toml × List Char) :=
  let (text, rest) := words [] [] cs
  (scalar? text).map fun value => (value, rest)

mutual

/-- Reads a value that is `depth` arrays and tables deep. -/
def value? : (fuel depth : Nat) → List Char → Option (Toml × List Char)
  | 0, _, _ => none
  | fuel + 1, depth, cs =>
    match cs with
    | [] => none
    | c :: rest =>
      if c = '\"' ∨ c = singleQuote then
        (quoted? fuel true c cs).map fun (s, rest) => (string s, rest)
      else if c = '[' then
        if maxNesting ≤ depth then none
        else (skipFiller? false rest).bind (items? fuel (depth + 1) [])
      else if c = '\x7b' then
        if maxNesting ≤ depth then none
        else (skipFiller? false rest).bind (entries? fuel (depth + 1) (emptyTable .inline))
      else scalarValue? cs

/-- Reads the rest of an array; `done` holds the items already read, the latest first. -/
def items? : (fuel depth : Nat) → List Toml → List Char → Option (Toml × List Char)
  | 0, _, _, _ => none
  | fuel + 1, depth, done, cs =>
    match cs with
    | ']' :: rest => some (array false done.reverse, rest)
    | _ => do
      let (item, rest) ← value? fuel depth cs
      match ← skipFiller? false rest with
      | ',' :: rest => (skipFiller? false rest).bind (items? fuel depth (item :: done))
      | ']' :: rest => some (array false (item :: done).reverse, rest)
      | _ => none

/-- Reads the rest of a table in braces, which has the entries of `done` already. Lines may end
anywhere but inside a key. -/
def entries? : (fuel depth : Nat) → Toml → List Char → Option (Toml × List Char)
  | 0, _, _, _ => none
  | fuel + 1, depth, done, cs =>
    match cs with
    | '\x7d' :: rest => some (done, rest)
    | _ => do
      let (path, rest) ← key? fuel cs
      match ← skipFiller? false rest with
      | '=' :: rest => do
        let (value, rest) ← value? fuel depth (← skipFiller? false rest)
        let done ← insert? path value done
        match ← skipFiller? false rest with
        | ',' :: rest => (skipFiller? false rest).bind (entries? fuel depth done)
        | '\x7d' :: rest => some (done, rest)
        | _ => none
      | _ => none

end

/-! ## Documents -/

/-- Reads a header after its first bracket: whether it is that of an array of tables, and its
key. -/
def header? (fuel : Nat) (cs : List Char) : Option (Bool × List String × List Char) :=
  match cs with
  | '[' :: rest => do
    let (path, rest) ← key? fuel rest
    match rest with
    | ']' :: ']' :: rest => some (true, path, rest)
    | _ => none
  | _ => do
    let (path, rest) ← key? fuel cs
    match rest with
    | ']' :: rest => some (false, path, rest)
    | _ => none

/-- Reads a key and its value. -/
def keyValue? (fuel : Nat) (cs : List Char) : Option (List String × Toml × List Char) := do
  let (path, rest) ← key? fuel cs
  match rest with
  | '=' :: rest => do
    let (value, rest) ← value? fuel 0 (skipBlanks rest)
    some (path, value, rest)
  | _ => none

/-- Reads the rest of a document after the header with the key `header`. -/
def lines? : (fuel : Nat) → (header : List String) → (document : Toml) → List Char → Option Toml
  | 0, _, _, _ => none
  | fuel + 1, header, document, cs => do
    match ← skipFiller? false cs with
    | [] => some document
    | '[' :: rest => do
      let (isArray, path, rest) ← header? fuel rest
      lines? fuel path (← declare? isArray path document) (← afterLine? rest)
    | cs => do
      let (path, value, rest) ← keyValue? fuel cs
      lines? fuel header (← insertUnder? header path value document) (← afterLine? rest)

/-- Reads a document. A byte order mark before it is no part of it. -/
def read? (s : String) : Option Toml :=
  let cs := s.toList
  let cs := if cs.head? = some (Char.ofNat 0xFEFF) then cs.drop 1 else cs
  lines? (2 * cs.length + 2) [] (emptyTable .declared) cs

end PropertyTesting.Toml
